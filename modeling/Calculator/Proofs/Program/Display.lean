import Calculator.Proofs.Program.Outline
import Calculator.Proofs.Program.Places

/-! # Outlines by recursion

`display` writes the outline of a tree by recursion: the line of a node, and below it the outlines of
the nodes below. The list of waiting nodes gives the same text, whatever nodes wait in it at whatever
levels, and it gives none just if a node is missing somewhere in the tree.
-/
namespace Calculator

namespace Node

def indented (level : Int) (line : String) : String :=
  ("  " ++ ·)^[level.toNat] line

mutual

/-- The outline of a tree by recursion: the line of the node, and then the outlines of the nodes below
it from left to right, one level deeper. -/
def display : Node → Int → Except MissingNode String
  | number value location, level =>
    .ok (indented level ("Number " ++ numberText value ++ " " ++ location.text))
  | identifier name location, level =>
    .ok (indented level ("Identifier " ++ name ++ " " ++ location.text))
  | binary op left right location, level =>
    (left.display (level + 1)).bind fun l => (right.display (level + 1)).map fun r =>
      joined [indented level ("BinaryOperation " ++ op.name ++ " " ++ location.text), l, r]
  | assignment name value location, level =>
    (value.display (level + 1)).map fun text =>
      joined [indented level ("Assignment " ++ name ++ " " ++ location.text), text]
  | root statements location, level =>
    (displays statements (level + 1)).map fun texts =>
      joined (indented level ("Root " ++ location.text) :: texts)
  | missing, _ => .error {}

def displays : List Node → Int → Except MissingNode (List String)
  | [], _ => .ok []
  | node :: rest, level =>
    (node.display level).bind fun text => (displays rest level).map (text :: ·)

end

/-- The outlines of waiting nodes, each at its level. -/
def displayEach : List (Node × Int) → Except MissingNode (List String)
  | [] => .ok []
  | (node, level) :: later =>
    (node.display level).bind fun text => (displayEach later).map (text :: ·)

theorem displays_eq_displayEach (nodes : List Node) (level : Int) :
    displays nodes level = displayEach (nodes.map (·, level)) := by
  induction nodes with
  | nil => rfl
  | cons node rest ih => rw [displays, ih]; rfl

theorem displayEach_append (front back : List (Node × Int)) :
    displayEach (front ++ back) =
      (displayEach front).bind fun texts => (displayEach back).map (texts ++ ·) := by
  induction front with
  | nil => cases h : displayEach back <;> simp [displayEach, h, Except.bind, Except.map]
  | cons entry front ih =>
    obtain ⟨node, level⟩ := entry
    rw [List.cons_append, displayEach, displayEach, ih]
    cases node.display level with
    | error e => rfl
    | ok text =>
      cases displayEach front with
      | error e => rfl
      | ok texts => cases displayEach back <;> rfl

theorem indented_eq (level : Int) (line : String) :
    indented level line = indentation level ++ line := by
  have hlist (n : Nat) : (("  " ++ ·)^[n] line).toList = List.replicate (2 * n) ' ' ++ line.toList := by
    induction n with
    | zero => simp
    | succ n ih =>
      rw [Function.iterate_succ_apply', String.toList_append, ih]
      simp [Nat.mul_add, List.replicate_succ]
  apply String.toList_inj.mp
  rw [indented, hlist, indentation, String.toList_append, String.toList_ofList]

/-- One equation for the displays of all kinds of nodes. -/
theorem display_eq {node : Node} {heading : String} (h : node.heading? = some heading) (level : Int) :
    node.display level = (displayEach (node.deeper level)).map fun texts =>
      joined ((indentation level ++ heading) :: texts) := by
  rw [← indented_eq]
  cases node with
  | missing => cases h
  | number | identifier =>
    obtain rfl := Option.some.inj h
    simp [display, deeper, children, displayEach, Except.map, joined]
  | binary op left right location =>
    obtain rfl := Option.some.inj h
    simp only [display, deeper, children, List.map_cons, List.map_nil, displayEach]
    cases left.display (level + 1) with
    | error e => rfl
    | ok l => cases right.display (level + 1) <;> rfl
  | assignment name value location =>
    obtain rfl := Option.some.inj h
    simp only [display, deeper, children, List.map_cons, List.map_nil, displayEach]
    cases value.display (level + 1) <;> rfl
  | root statements location =>
    obtain rfl := Option.some.inj h
    rw [display, displays_eq_displayEach]
    rfl

end Node

theorem joined_cons_cons (first second : String) (rest : List String) :
    joined (first :: second :: rest) = joined ((first ++ "\n" ++ second) :: rest) := by
  apply String.toList_inj.mp
  cases rest <;> simp [joinLines]

theorem joined_cons_joined (first second : String) (middle rest : List String) :
    joined (first :: joined (second :: middle) :: rest) = joined (first :: second :: (middle ++ rest)) := by
  induction middle generalizing second with
  | nil => simp [joined]
  | cons third middle ih =>
    rw [joined_cons_cons second, ih, List.cons_append, joined_cons_cons first second,
      joined_cons_cons, joined_cons_cons]
    simp only [String.append_assoc]

namespace Node

/-- Waiting nodes have the text of their displays, whatever line stands above them. -/
theorem map_joined_outlineLines (waiting : List (Node × Int)) (first : String) :
    (outlineLines waiting).map (fun lines => joined (first :: lines)) =
      (displayEach waiting).map fun texts => joined (first :: texts) := by
  induction waiting using waiting_induction generalizing first with
  | nil => simp [outlineLines, displayEach]
  | missing level later => simp [outlineLines, heading?, displayEach, display, Except.bind]
  | node node level later heading hheading ih =>
    -- The line of the node joins the line above, so that the nodes below it are first to wait.
    calc (outlineLines ((node, level) :: later)).map (fun lines => joined (first :: lines))
      _ = (outlineLines (node.deeper level ++ later)).map fun lines =>
          joined ((first ++ "\n" ++ (indentation level ++ heading)) :: lines) := by
        rw [outlineLines_cons hheading]
        cases outlineLines (node.deeper level ++ later) with
        | error e => rfl
        | ok lines => exact congrArg Except.ok (joined_cons_cons _ _ _)
      _ = ((displayEach (node.deeper level)).bind fun below =>
          (displayEach later).map (below ++ ·)).map fun texts =>
            joined ((first ++ "\n" ++ (indentation level ++ heading)) :: texts) := by
        rw [ih, displayEach_append]
      _ = (displayEach ((node, level) :: later)).map fun texts => joined (first :: texts) := by
        rw [displayEach, display_eq hheading]
        cases displayEach (node.deeper level) with
        | error e => rfl
        | ok below =>
          cases displayEach later with
          | error e => rfl
          | ok texts =>
            have htext : joined ((first ++ "\n" ++ (indentation level ++ heading)) :: (below ++ texts)) =
                joined (first :: joined ((indentation level ++ heading) :: below) :: texts) := by
              rw [joined_cons_joined, joined_cons_cons]
            exact congrArg Except.ok htext

theorem within_missing_iff {node : Node} {heading : String} (h : node.heading? = some heading)
    (level : Int) :
    Within .missing node ↔ ∃ entry ∈ node.deeper level, Within .missing entry.1 := by
  constructor
  · intro hmissing
    cases hmissing with
    | self => cases h
    | child hchild hbelow => exact ⟨_, List.mem_map_of_mem hchild, hbelow⟩
  · rintro ⟨entry, hentry, hbelow⟩
    obtain ⟨child, hchild, rfl⟩ := List.mem_map.mp hentry
    exact .child hchild hbelow

/-- Waiting nodes have no lines just if a node is missing in one of the trees. -/
theorem outlineLines_eq_error_iff (waiting : List (Node × Int)) :
    outlineLines waiting = .error {} ↔ ∃ entry ∈ waiting, Within .missing entry.1 := by
  induction waiting using waiting_induction with
  | nil => simp [outlineLines]
  | missing level later => simp [outlineLines, heading?, Within.self]
  | node node level later heading hheading ih =>
    have hlater : outlineLines ((node, level) :: later) = .error {} ↔
        outlineLines (node.deeper level ++ later) = .error {} := by
      rw [outlineLines_cons hheading]
      cases outlineLines (node.deeper level ++ later) <;> simp [Except.map]
    rw [hlater, ih, List.exists_mem_cons_iff, within_missing_iff hheading level]
    simp only [List.mem_append, or_and_right, exists_or]

/-- The list of waiting nodes gives every tree at every level the outline that recursion gives it.
There is none just if a node is missing at the root or anywhere below. -/
theorem outline_eq_display (node : Node) (level : Int) :
    node.outline level = node.display level ∧
    (node.outline level = .error {} ↔ Within .missing node) ∧
    ((∃ text, node.outline level = .ok text) ↔ ¬ Within .missing node) := by
  have herror : node.outline level = .error {} ↔ Within .missing node := by
    have hlines := outlineLines_eq_error_iff [(node, level)]
    simp only [List.mem_singleton, exists_eq_left] at hlines
    rw [← hlines, outline]
    cases outlineLines [(node, level)] <;> simp [Except.map]
  refine ⟨?_, herror, ?_⟩
  · cases hheading : node.heading? with
    | none =>
      obtain rfl := heading?_eq_none_iff.mp hheading
      simp [outline, outlineLines, heading?, display, Except.map]
    | some heading =>
      rw [outline, outlineLines_cons hheading, List.append_nil, display_eq hheading,
        ← map_joined_outlineLines]
      cases outlineLines (node.deeper level) <;> rfl
  · rw [← herror]
    cases node.outline level <;> simp

/-- Below a level under zero the lines are not indented, and then by two spaces for each level. -/
example :
    (root [.identifier "a" ⟨0, 0⟩, .root [.identifier "b" ⟨1, 2⟩] ⟨1, 0⟩] ⟨0, 0⟩).display (-1) =
      .ok "Root [0:0]\nIdentifier a [0:0]\nRoot [1:0]\n  Identifier b [1:2]" := by
  cbv

end Node

end Calculator
