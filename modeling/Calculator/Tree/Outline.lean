import Calculator.Tree.Basic
import Calculator.Decimal.Text
import Calculator.Text.Lines

/-! # Trees as indented outlines

A tree is displayed with one line for each node, a node before the nodes below it, which are
indented one step more. The nodes that are still to be shown wait in a list, so that the depth of
a tree is bounded by nothing.
-/
namespace Calculator

structure MissingNode where
  deriving DecidableEq

def MissingNode.message (_ : MissingNode) : String :=
  "Unexpected node type: None"

namespace Node

def heading? : Node → Option String
  | number value location => some ("Number " ++ numberText value ++ " " ++ location.text)
  | identifier name location => some ("Identifier " ++ name ++ " " ++ location.text)
  | binary op _ _ location => some ("BinaryOperation " ++ op.name ++ " " ++ location.text)
  | assignment name _ location => some ("Assignment " ++ name ++ " " ++ location.text)
  | root _ location => some ("Root " ++ location.text)
  | missing => none

/-- Two spaces for each level; none for a level below zero. -/
def indentation (level : Int) : String :=
  String.ofList (List.replicate (2 * level.toNat) ' ')

/-- The lines of the waiting nodes, each at its level. -/
def outlineLines : List (Node × Int) → Except MissingNode (List String)
  | [] => .ok []
  | (node, level) :: waiting =>
    match node.heading? with
    | none => .error {}
    | some heading =>
      match outlineLines (node.children.map (·, level + 1) ++ waiting) with
      | .ok lines => .ok ((indentation level ++ heading) :: lines)
      | .error e => .error e
termination_by waiting => sizes (waiting.map (·.1))
decreasing_by
  simp only [List.map_append, List.map_map, List.map_cons, Function.comp_def, List.map_id',
    sizes_append, sizes, size_eq node]
  omega

/-- The outline of a tree whose root stands at the given level. -/
def outline (node : Node) (level : Int) : Except MissingNode String :=
  (outlineLines [(node, level)]).map joined

end Node

end Calculator
