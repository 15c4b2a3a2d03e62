import Calculator.Proofs.Text.SingleLine
import Calculator.Tree.Outline

/-! # What the line of a node tells

The line of a node begins with the word for its kind, ends with its place, and has in between what
the node says: a number, a name or an operator. A place has no space in it, so the line can be taken
apart at its last space, whatever spaces there are in a name. In front of the line stand two spaces
for each level.
-/
namespace Calculator

theorem replicate_append_inj {α : Type} {a : α} {m n : Nat} {back back' : List α}
    (hback : back.head? ≠ some a) (hback' : back'.head? ≠ some a)
    (h : List.replicate m a ++ back = List.replicate n a ++ back') : m = n ∧ back = back' := by
  induction m generalizing n with
  | zero =>
    cases n with
    | zero => exact ⟨rfl, h⟩
    | succ n => exact absurd (congrArg List.head? h) hback
  | succ m ih =>
    cases n with
    | zero => exact absurd (congrArg List.head? h.symm) hback'
    | succ n =>
      obtain ⟨rfl, hrest⟩ := ih (List.cons.inj h).2
      exact ⟨rfl, hrest⟩

namespace Node

/-- Two nodes are of the same kind, stand at the same place and say the same; two numbers say the
same if their texts are equal. The nodes below do not count. -/
inductive SameHeading : Node → Node → Prop
  | number {value value' : Float} (h : numberText value = numberText value') (location : Location) :
    SameHeading (.number value location) (.number value' location)
  | identifier (name : String) (location : Location) :
    SameHeading (.identifier name location) (.identifier name location)
  | binary (op : Operator) (l r l' r' : Node) (location : Location) :
    SameHeading (.binary op l r location) (.binary op l' r' location)
  | assignment (name : String) (value value' : Node) (location : Location) :
    SameHeading (.assignment name value location) (.assignment name value' location)
  | root (statements statements' : List Node) (location : Location) :
    SameHeading (.root statements location) (.root statements' location)

def initial : Node → Char
  | number .. => 'N'
  | identifier .. => 'I'
  | binary .. => 'B'
  | assignment .. => 'A'
  | root .. => 'R'
  | missing => 'M'

theorem head?_heading {node : Node} {heading : String} (h : node.heading? = some heading) :
    heading.toList.head? = some node.initial := by
  cases node with
  | missing => cases h
  | number | identifier | binary | assignment | root =>
    obtain rfl := Option.some.inj h
    simp [initial]

theorem head?_heading_ne_space {node : Node} {heading : String} (h : node.heading? = some heading) :
    heading.toList.head? ≠ some ' ' := by
  rw [head?_heading h]
  cases node <;> simp [initial]

/-- What stands before the last space of a line is not disturbed by spaces in a name. -/
theorem append_place_inj {word text text' : String} {location location' : Location}
    (h : word ++ text ++ " " ++ location.text = word ++ text' ++ " " ++ location'.text) :
    text = text' ∧ location = location' := by
  have hlist : (word.toList ++ text.toList) ++ ' ' :: location.text.toList =
      (word.toList ++ text'.toList) ++ ' ' :: location'.text.toList := by
    simpa using congrArg String.toList h
  obtain ⟨htext, hplace⟩ :=
    append_cons_inj_last location.space_notMem_text location'.space_notMem_text hlist
  exact ⟨String.toList_inj.mp (List.append_cancel_left htext),
    Location.text_injective (String.toList_inj.mp hplace)⟩

theorem SameHeading.heading?_eq {node node' : Node} (h : node.SameHeading node') :
    node.heading? = node'.heading? := by
  cases h with
  | number h location => rw [heading?, heading?, h]
  | identifier | binary | assignment | root => rfl

theorem SameHeading.of_heading?_eq {node node' : Node} {heading : String}
    (h : node.heading? = some heading) (h' : node'.heading? = some heading) :
    node.SameHeading node' := by
  have hinitial : node.initial = node'.initial :=
    Option.some.inj ((head?_heading h).symm.trans (head?_heading h'))
  have heq : node.heading? = node'.heading? := h.trans h'.symm
  cases node with
  | missing => cases h
  | number value location =>
    cases node' with
    | number value' location' =>
      obtain ⟨hvalue, rfl⟩ := append_place_inj (Option.some.inj heq)
      exact .number hvalue location
    | _ => simp [initial] at hinitial
  | identifier name location =>
    cases node' with
    | identifier name' location' =>
      obtain ⟨rfl, rfl⟩ := append_place_inj (Option.some.inj heq)
      exact .identifier name location
    | _ => simp [initial] at hinitial
  | binary op l r location =>
    cases node' with
    | binary op' l' r' location' =>
      obtain ⟨hop, rfl⟩ := append_place_inj (Option.some.inj heq)
      obtain rfl := Operator.name_injective hop
      exact .binary op l r l' r' location
    | _ => simp [initial] at hinitial
  | assignment name value location =>
    cases node' with
    | assignment name' value' location' =>
      obtain ⟨rfl, rfl⟩ := append_place_inj (Option.some.inj heq)
      exact .assignment name value value' location
    | _ => simp [initial] at hinitial
  | root statements location =>
    cases node' with
    | root statements' location' =>
      obtain rfl := Location.text_injective ((String.append_right_inj "Root ").mp (Option.some.inj heq))
      exact .root statements statements' location
    | _ => simp [initial] at hinitial

theorem newline_notMem_indentation (level : Int) : '\n' ∉ (indentation level).toList := by
  simp [indentation]

theorem indentation_append_inj {level level' : Int} (hlevel : 0 ≤ level) (hlevel' : 0 ≤ level')
    {node node' : Node} {heading heading' : String} (h : node.heading? = some heading)
    (h' : node'.heading? = some heading')
    (heq : indentation level ++ heading = indentation level' ++ heading') :
    level = level' ∧ heading = heading' := by
  have hlist := congrArg String.toList heq
  simp only [String.toList_append, indentation, String.toList_ofList] at hlist
  obtain ⟨hwidth, hheading⟩ :=
    replicate_append_inj (head?_heading_ne_space h) (head?_heading_ne_space h') hlist
  exact ⟨by omega, String.toList_inj.mp hheading⟩

end Node

end Calculator
