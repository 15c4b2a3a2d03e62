import Calculator.Location
import Calculator.Operator

/-! # Syntax trees

A tree is built from numbers, names, binary operations, assignments and roots of several
statements. The parser builds only some of them; the operations on trees take any, also one in
which an assignment or a root stands below an operator or a node is missing.
-/
namespace Calculator

/-- A node of a syntax tree, with its place in the source. -/
inductive Node where
  | number (value : Float) (location : Location)
  | identifier (name : String) (location : Location)
  | binary (op : Operator) (left right : Node) (location : Location)
  | assignment (name : String) (value : Node) (location : Location)
  | root (statements : List Node) (location : Location)
  /-- A place where a node should be and is not. -/
  | missing

namespace Node

def location? : Node → Option Location
  | number _ location | identifier _ location | binary _ _ _ location | assignment _ _ location
  | root _ location => some location
  | missing => none

def children : Node → List Node
  | number .. | identifier .. | missing => []
  | binary _ left right _ => [left, right]
  | assignment _ value _ => [value]
  | root statements _ => statements

mutual

def size : Node → Nat
  | number .. => 1
  | identifier .. => 1
  | binary _ left right _ => size left + size right + 1
  | assignment _ value _ => size value + 1
  | root statements _ => sizes statements + 1
  | missing => 1

def sizes : List Node → Nat
  | [] => 0
  | node :: rest => size node + sizes rest

end

theorem sizes_append (left right : List Node) : sizes (left ++ right) = sizes left + sizes right := by
  induction left with
  | nil => simp [sizes]
  | cons node rest ih => simp [sizes, ih, Nat.add_assoc]

theorem size_eq (node : Node) : node.size = sizes node.children + 1 := by
  cases node <;> simp [size, sizes, children]

end Node

end Calculator
