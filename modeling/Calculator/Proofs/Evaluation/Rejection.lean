import Calculator.Proofs.Evaluation.Statements

/-! # Nodes that are no expressions

The walk along a tree takes no more of the call stack for a deep tree, but to say which node it
rejects it describes that node, and the description goes as deep as the node. Where the call stack
has room for it, evaluation has the meaning of the tree; where not, the error is another one and
nothing else changes. A tree without such nodes, as parsing builds them, needs no room.
-/
namespace Calculator

namespace Node
open Evaluation

/-! ## The calls of a description -/

theorem calls_le_mostCalls {node : Node} {nodes : List Node} (h : node ∈ nodes) :
    node.calls ≤ mostCalls nodes := by
  induction nodes with
  | nil => cases h
  | cons first rest ih =>
    rcases List.mem_cons.mp h with rfl | h
    · exact Nat.le_max_left _ _
    · exact Nat.le_trans (ih h) (Nat.le_max_right _ _)

theorem calls_lt_of_mem_children {child node : Node} (h : child ∈ node.children) :
    child.calls < node.calls := by
  cases node with
  | number | identifier | missing => cases h
  | binary op left right location =>
    simp only [children, List.mem_cons, List.not_mem_nil, or_false] at h
    simp only [calls, objectCalls]
    rcases h with rfl | rfl <;> omega
  | assignment name value location =>
    obtain rfl := List.mem_singleton.mp h
    simp only [calls, objectCalls]
    omega
  | root statements location =>
    have hle : child.calls ≤ mostCalls statements := calls_le_mostCalls h
    simp only [calls, objectCalls]
    omega

theorem calls_le_of_rejected {node rejected : Node} {table : SymbolTable}
    (h : (node.meaning table).result = .error (.notAnExpression rejected)) :
    rejected.calls ≤ node.calls := by
  match node with
  | .number .. => cases h
  | .identifier name location =>
    rw [meaning_identifier] at h
    cases hget : table.get? name <;> simp [hget] at h
  | .binary op left right location =>
    have hleft : left.calls < (binary op left right location).calls :=
      calls_lt_of_mem_children (by simp [children])
    have hright : right.calls < (binary op left right location).calls :=
      calls_lt_of_mem_children (by simp [children])
    rcases error_of_andThen h with ⟨hl, _⟩ | ⟨l, _, hrest, _⟩
    · exact Nat.le_trans (calls_le_of_rejected hl) (Nat.le_of_lt hleft)
    · rcases error_of_andThen hrest with ⟨hr, _⟩ | ⟨r, _, hvalue, _⟩
      · exact Nat.le_trans (calls_le_of_rejected hr) (Nat.le_of_lt hright)
      · cases hvalue
  | .assignment name value location =>
    have hvalue : value.calls < (assignment name value location).calls :=
      calls_lt_of_mem_children (by simp [children])
    rcases error_of_andThen h with ⟨hv, _⟩ | ⟨v, _, hstore, _⟩
    · exact Nat.le_trans (calls_le_of_rejected hv) (Nat.le_of_lt hvalue)
    · cases hstore
  | .root .. | .missing =>
    obtain rfl := EvalError.notAnExpression.inj (Except.error.inj h)
    exact Nat.le_refl _

theorem evaluateWith_of_not_rejected {node : Node} {table : SymbolTable}
    (h : ∀ rejected, (node.meaning table).result ≠ .error (.notAnExpression rejected))
    (reject : Node → EvalError) : node.evaluateWith reject table = node.meaning table := by
  rw [evaluateWith_eq_mapError]
  cases hresult : (node.meaning table).result with
  | ok value => exact mapError_of_ok hresult _
  | error e =>
    rw [mapError_of_error hresult]
    cases e with
    | notAnExpression rejected => exact absurd hresult (h rejected)
    | undefined | stackExhausted | defect => exact congrArg (Evaluation.mk · _ _) hresult.symm

theorem evaluateWithin_of_rejected {node rejected : Node} {table : SymbolTable}
    (h : (node.meaning table).result = .error (.notAnExpression rejected)) (room : Nat) :
    node.evaluateWithin room table =
      ⟨.error (.rejection room rejected), (node.meaning table).table, (node.meaning table).log⟩ := by
  rw [evaluateWithin, evaluateWith_eq_mapError, mapError_of_error h]
  rfl

/-- No statement that parsing yields is rejected, so that it is evaluated alike on every call stack. -/
theorem IsStatement.evaluateWith_eq {node : Node} (h : node.IsStatement)
    (reject : Node → EvalError) (table : SymbolTable) :
    node.evaluateWith reject table = node.evaluate table := by
  rw [evaluate_eq_meaning]
  apply evaluateWith_of_not_rejected
  intro rejected hrejected
  obtain ⟨name, location, hundefined⟩ := h.undefined_of_error hrejected
  cases hundefined

theorem evaluateWithin_of_fits {room : Nat} {node : Node} {table : SymbolTable}
    (hfits : ∀ rejected, (node.meaning table).result = .error (.notAnExpression rejected) →
      rejected.calls ≤ room) : node.evaluateWithin room table = node.meaning table := by
  by_cases h : ∃ rejected, (node.meaning table).result = .error (.notAnExpression rejected)
  · obtain ⟨rejected, h⟩ := h
    rw [evaluateWithin_of_rejected h, EvalError.rejection, if_pos (hfits rejected h), ← h]
  · exact evaluateWith_of_not_rejected (not_exists.mp h) _

theorem evaluateWithin_of_exhausted {room : Nat} {node rejected : Node} {table : SymbolTable}
    (h : (node.meaning table).result = .error (.notAnExpression rejected))
    (hroom : room < rejected.calls) :
    node.evaluateWithin room table =
      ⟨.error .stackExhausted, (node.meaning table).table, (node.meaning table).log⟩ := by
  rw [evaluateWithin_of_rejected h, EvalError.rejection, if_neg (Nat.not_le_of_lt hroom)]

theorem evaluateWithin_ne_meaning {room : Nat} {node rejected : Node} {table : SymbolTable}
    (h : (node.meaning table).result = .error (.notAnExpression rejected))
    (hroom : room < rejected.calls) : node.evaluateWithin room table ≠ node.meaning table := by
  intro heq
  have hresult := congrArg Evaluation.result heq
  rw [evaluateWithin_of_exhausted h hroom, h] at hresult
  cases hresult

theorem evaluateWithin_of_calls_le {room : Nat} {node : Node} (hroom : node.calls ≤ room)
    (table : SymbolTable) : node.evaluateWithin room table = node.meaning table :=
  evaluateWithin_of_fits fun _ h => Nat.le_trans (calls_le_of_rejected h) hroom

theorem faithful_evaluateWithin (room : Nat) (node : Node) (table : SymbolTable) :
    Faithful table (node.evaluateWithin room table) := by
  have hmeaning := node.faithful_meaning table
  by_cases h : ∃ rejected, (node.meaning table).result = .error (.notAnExpression rejected)
  · obtain ⟨rejected, h⟩ := h
    rw [evaluateWithin_of_rejected h]
    refine ⟨?_, hmeaning.table_eq⟩
    intro d hd
    rw [EvalError.rejection] at hd
    split at hd <;> cases hd
  · rw [evaluateWithin, evaluateWith_of_not_rejected (not_exists.mp h)]
    exact hmeaning

/-- The stacks compute the meaning of every tree on every table just if the call stack has room for
the description of the node that is rejected, if one is; room for that of the tree is enough. They end
with the value alone, or with the error, never run short, and change the table by the logged stores
and nothing else. Where there is no room, only the error is another. -/
theorem evaluateWithin_eq_meaning_iff (room : Nat) (node : Node) (table : SymbolTable) :
    Task.execWith (.rejection room) [.visit node] [] table =
      ⟨(node.evaluateWithin room table).result.map ([·]), (node.evaluateWithin room table).table,
        (node.evaluateWithin room table).log⟩ ∧
    (node.evaluateWithin room table = node.meaning table ↔
      ∀ rejected, (node.meaning table).result = .error (.notAnExpression rejected) →
        rejected.calls ≤ room) ∧
    (node.calls ≤ room → node.evaluateWithin room table = node.meaning table) ∧
    (∀ rejected, (node.meaning table).result = .error (.notAnExpression rejected) →
      room < rejected.calls → node.evaluateWithin room table =
        ⟨.error .stackExhausted, (node.meaning table).table, (node.meaning table).log⟩) ∧
    (∀ d, (Task.execWith (.rejection room) [.visit node] [] table).result ≠ .error (.defect d)) ∧
    (node.evaluateWithin room table).table = replay (node.evaluateWithin room table).log table := by
  have hexec : Task.execWith (.rejection room) [.visit node] [] table =
      ⟨(node.evaluateWithin room table).result.map ([·]), (node.evaluateWithin room table).table,
        (node.evaluateWithin room table).log⟩ := node.execWith_visit_singleton _ table
  have hfaithful := faithful_evaluateWithin room node table
  refine ⟨hexec, ⟨?_, evaluateWithin_of_fits⟩, fun hroom => evaluateWithin_of_calls_le hroom table,
    fun _ => evaluateWithin_of_exhausted, ?_, hfaithful.table_eq⟩
  · intro heq rejected h
    apply Nat.le_of_not_lt
    intro hroom
    exact evaluateWithin_ne_meaning h hroom heq
  · intro d hdefect
    rw [hexec] at hdefect
    apply hfaithful.ne_defect d
    cases h : (node.evaluateWithin room table).result with
    | ok value => simp [h, Except.map] at hdefect
    | error e => simpa [h, Except.map] using hdefect

/-- The sum of ones that parsing `1+1+…+1` with so many signs yields. -/
def onesSum : Nat → Node
  | 0 => .number 1.0 ⟨0, 0⟩
  | n + 1 => .binary .add (onesSum n) (.number 1.0 ⟨0, 2 * n + 2⟩) ⟨0, 2 * n + 1⟩

theorem calls_onesSum (n : Nat) : (onesSum n).calls = 3 * n + 7 := by
  induction n with
  | zero => rfl
  | succ n ih =>
    simp only [onesSum, calls, ih, objectCalls, placeCalls]
    omega

/-- A program of 1500 ones added up is no expression, and where there is room for 1000 calls no
message says so. -/
theorem evaluateWithin_program_of_ones :
    let tree := (Program.ofStatements [onesSum 1499]).toNode
    (tree.meaning .empty).result = .error (.notAnExpression tree) ∧
    tree.evaluateWithin 1000 .empty = ⟨.error .stackExhausted, .empty, []⟩ ∧
    tree.evaluateWithin 1000 .empty ≠ tree.meaning .empty := by
  intro tree
  have hrejected : (tree.meaning .empty).result = .error (.notAnExpression tree) := rfl
  have hcalls : 1000 < tree.calls := by
    have hstatement : onesSum 1499 ∈ tree.children := List.mem_singleton_self _
    have hlt := calls_lt_of_mem_children hstatement
    rw [calls_onesSum] at hlt
    omega
  exact ⟨hrejected, evaluateWithin_of_exhausted hrejected hcalls,
    evaluateWithin_ne_meaning hrejected hcalls⟩

end Node

end Calculator
