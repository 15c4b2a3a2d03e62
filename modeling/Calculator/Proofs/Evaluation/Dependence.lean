import Calculator.Proofs.Evaluation.Walk

/-! # What an evaluation depends on

A name is exposed if the walk reads it before it stores it. Two evaluations from tables that agree on
the exposed names cannot be told apart: they have the same outcome and the same log, they leave the
same value under every name that they store, and they leave every other name alone.
-/
namespace Calculator
open Access

/-- A name is read along a walk where nothing has been stored under it, and no node been rejected
before; behind a rejected node nothing is read any more. -/
def Exposed (name : String) : List Access → Prop
  | [] => False
  | .read other _ :: rest => other = name ∨ Exposed name rest
  | .store other :: rest => other ≠ name ∧ Exposed name rest
  | .reject _ :: _ => False

theorem Exposed.append {name : String} {walk : List Access} (h : Exposed name walk)
    (more : List Access) : Exposed name (walk ++ more) := by
  induction walk with
  | nil => exact h.elim
  | cons access rest ih =>
    cases access with
    | read => exact h.imp id ih
    | store => exact ⟨h.1, ih h.2⟩
    | reject => exact h

theorem Exposed.append_left {name : String} {walk more : List Access} (h : Exposed name more)
    (hstore : name ∉ stores walk) (hreject : ∀ node, .reject node ∉ walk) :
    Exposed name (walk ++ more) := by
  induction walk with
  | nil => exact h
  | cons access rest ih =>
    have hrest : ∀ node, .reject node ∉ rest := fun node hnode =>
      hreject node (List.mem_cons_of_mem _ hnode)
    cases access with
    | read => exact Or.inr (ih hstore hrest)
    | store other =>
      have hnames : name ∉ other :: stores rest := hstore
      obtain ⟨hne, hnames⟩ := List.ne_and_not_mem_of_not_mem_cons hnames
      exact ⟨hne.symm, ih hnames hrest⟩
    | reject node => exact absurd List.mem_cons_self (hreject node)

/-- Two tables have the same values, or none, under the names that a walk exposes. -/
def AgreeOn (walk : List Access) (left right : SymbolTable) : Prop :=
  ∀ name, Exposed name walk → left.get? name = right.get? name

theorem AgreeOn.of_append {walk more : List Access} {left right : SymbolTable}
    (h : AgreeOn (walk ++ more) left right) : AgreeOn walk left right :=
  fun name hname => h name (hname.append more)

theorem get?_replay_of_notMem {name : String} {log : List Event} (h : name ∉ storedNames log)
    (table : SymbolTable) : (replay log table).get? name = table.get? name := by
  induction log generalizing table with
  | nil => rfl
  | cons event log ih =>
    cases event with
    | stored other value =>
      have hnames : name ∉ other :: storedNames log := h
      obtain ⟨hne, hnames⟩ := List.ne_and_not_mem_of_not_mem_cons hnames
      exact (ih hnames _).trans (NameMap.get?_insert_of_ne _ hne.symm _)
    | skipped | evaluated => exact ih h table

theorem exists_get?_replay {name : String} {log : List Event} (h : name ∈ storedNames log) :
    ∃ value, ∀ table, (replay log table).get? name = some value := by
  induction log with
  | nil => cases h
  | cons event log ih =>
    by_cases hlater : name ∈ storedNames log
    · obtain ⟨value, hvalue⟩ := ih hlater
      exact ⟨value, fun table => hvalue _⟩
    · cases event with
      | stored other value =>
        have hnames : name ∈ other :: storedNames log := h
        obtain rfl : name = other := (List.mem_cons.mp hnames).resolve_right hlater
        refine ⟨value, fun table => ?_⟩
        exact (get?_replay_of_notMem hlater _).trans (NameMap.get?_insert_self table name value)
      | skipped | evaluated => exact absurd h hlater

namespace Evaluation

variable {α β : Type}

/-- Two evaluations have the same outcome and the same log. -/
structure Alike (first second : Evaluation α) : Prop where
  result_eq : first.result = second.result
  log_eq : first.log = second.log

theorem Alike.andThen {first second : Evaluation α} (h : Alike first second)
    {next : α → SymbolTable → Evaluation β}
    (hnext : ∀ a, first.result = .ok a → Alike (next a first.table) (next a second.table)) :
    Alike (first.andThen next) (second.andThen next) := by
  cases hfirst : first.result with
  | error e =>
    rw [andThen_of_error hfirst, andThen_of_error (h.result_eq.symm.trans hfirst)]
    exact ⟨rfl, h.log_eq⟩
  | ok a =>
    obtain ⟨hresult, hlog⟩ := hnext a hfirst
    rw [andThen_of_ok hfirst, andThen_of_ok (h.result_eq.symm.trans hfirst)]
    exact ⟨hresult, by rw [h.log_eq, hlog]⟩

/-- A walk made on both tables leaves them in agreement on what the rest exposes: a name that has
been stored has the same value in both, and any other was exposed before. -/
theorem Alike.agreeOn {walk more : List Access} {left right : SymbolTable}
    {first second : Evaluation α} (h : Alike first second) (hfollows : Follows walk left first)
    (hfirst : Faithful left first) (hsecond : Faithful right second) {a : α}
    (hok : first.result = .ok a) (hagree : AgreeOn (walk ++ more) left right) :
    AgreeOn more first.table second.table := by
  have hreject : ∀ node, .reject node ∉ walk := by
    intro node
    have hnone := hfollows.failure_of_ok a hok []
    rw [List.append_nil] at hnone
    exact reject_notMem_of_failure?_eq_none hnone node
  intro name hname
  rw [hfirst.table_eq, hsecond.table_eq, ← h.log_eq]
  by_cases hstored : name ∈ storedNames first.log
  · obtain ⟨value, hvalue⟩ := exists_get?_replay hstored
    rw [hvalue, hvalue]
  · rw [get?_replay_of_notMem hstored, get?_replay_of_notMem hstored]
    rw [hfollows.stores_of_ok a hok] at hstored
    exact hagree name (hname.append_left hstored hreject)

end Evaluation

namespace Node
open Evaluation

theorem alike_meaning (node : Node) {left right : SymbolTable} (h : AgreeOn node.walk left right) :
    Alike (node.meaning left) (node.meaning right) := by
  match node with
  | .number .. | .root .. | .missing => exact ⟨rfl, rfl⟩
  | .identifier name location =>
    have hname : left.get? name = right.get? name := h name (Or.inl rfl)
    rw [meaning_identifier, meaning_identifier, hname]
    cases right.get? name <;> exact ⟨rfl, rfl⟩
  | .binary op l r location =>
    have hl := alike_meaning l h.of_append
    rw [meaning_binary, meaning_binary]
    apply hl.andThen
    intro value hvalue
    have hagree := hl.agreeOn (l.follows_meaning left) (l.faithful_meaning left)
      (l.faithful_meaning right) hvalue h
    apply (alike_meaning r hagree).andThen
    intro _ _
    exact ⟨rfl, rfl⟩
  | .assignment name value location =>
    rw [meaning_assignment, meaning_assignment]
    apply (alike_meaning value h.of_append).andThen
    intro _ _
    exact ⟨rfl, rfl⟩

theorem alike_evaluateAll {nodes : List Node} {left right : SymbolTable}
    (h : AgreeOn (nodes.flatMap walk) left right) :
    Alike (evaluateAll nodes left) (evaluateAll nodes right) := by
  induction nodes generalizing left right with
  | nil => exact ⟨rfl, rfl⟩
  | cons node rest ih =>
    rw [List.flatMap_cons] at h
    have hnode := node.alike_meaning h.of_append
    rw [evaluateAll_cons, evaluateAll_cons]
    apply hnode.andThen
    intro value hvalue
    have hagree := hnode.agreeOn (node.follows_meaning left) (node.faithful_meaning left)
      (node.faithful_meaning right) hvalue h
    apply (ih hagree).andThen
    intro _ _
    exact ⟨rfl, rfl⟩

theorem faithful_evaluateAll (nodes : List Node) (table : SymbolTable) :
    Faithful table (evaluateAll nodes table) := by
  induction nodes generalizing table with
  | nil => exact ⟨nofun, rfl⟩
  | cons node rest ih =>
    rw [evaluateAll_cons]
    apply (node.faithful_meaning table).andThen
    intro value table
    apply (ih table).andThen
    intro values table
    exact ⟨nofun, rfl⟩

end Node

namespace Program

/-- An evaluation depends on the exposed names alone. From two tables that agree on them it yields
the same results or the same error, and the same log. A name that it stores has the same value in
both tables afterwards; any other name is unchanged in each. It stores along the walk of the program,
and all of it if it succeeds. -/
theorem evaluate_depends_on_exposed (program : Program) {left right : SymbolTable}
    (h : ∀ name, Exposed name (program.statements.flatMap Node.walk) →
      left.get? name = right.get? name) :
    (program.evaluate left).result = (program.evaluate right).result ∧
    (program.evaluate left).log = (program.evaluate right).log ∧
    (∀ name ∈ storedNames (program.evaluate left).log, ∃ value,
      (program.evaluate left).table.get? name = some value ∧
        (program.evaluate right).table.get? name = some value) ∧
    (∀ name ∉ storedNames (program.evaluate left).log,
      (program.evaluate left).table.get? name = left.get? name ∧
        (program.evaluate right).table.get? name = right.get? name) ∧
    storedNames (program.evaluate left).log <+: stores (program.statements.flatMap Node.walk) ∧
    ∀ results, (program.evaluate left).result = .ok results →
      storedNames (program.evaluate left).log = stores (program.statements.flatMap Node.walk) := by
  have halike := Node.alike_evaluateAll h
  have hfollows := Node.follows_evaluateAll program.statements left
  have hleft := (Node.faithful_evaluateAll program.statements left).table_eq
  have hright := (Node.faithful_evaluateAll program.statements right).table_eq
  rw [← halike.log_eq] at hright
  refine ⟨halike.result_eq, halike.log_eq, ?_, ?_, hfollows.stores_prefix, hfollows.stores_of_ok⟩
  · intro name hname
    obtain ⟨value, hvalue⟩ := exists_get?_replay hname
    refine ⟨value, ?_, ?_⟩
    · rw [Program.evaluate, hleft]
      exact hvalue left
    · rw [Program.evaluate, hright]
      exact hvalue right
  · intro name hname
    constructor
    · rw [Program.evaluate, hleft]
      exact get?_replay_of_notMem hname left
    · rw [Program.evaluate, hright]
      exact get?_replay_of_notMem hname right

/-- The program `x = x + 1`, `(y = 2) + y`, `z`, and two statements that are not reached. -/
def shadowing : Program := .ofStatements
  [.assignment "x" (.binary .add (.identifier "x" ⟨0, 4⟩) (.number 1.0 ⟨0, 8⟩) ⟨0, 6⟩) ⟨0, 2⟩,
    .binary .add (.assignment "y" (.number 2.0 ⟨1, 5⟩) ⟨1, 3⟩) (.identifier "y" ⟨1, 10⟩) ⟨1, 8⟩,
    .identifier "z" ⟨2, 0⟩, .missing, .identifier "w" ⟨4, 0⟩]

theorem evaluate_shadowing :
    let left : SymbolTable := .ofList [("w", 3.0), ("x", 1.0)]
    let right : SymbolTable := .ofList [("x", 1.0), ("y", 5.0)]
    (∀ name, Exposed name (shadowing.statements.flatMap Node.walk) → left.get? name = right.get? name) ∧
    (shadowing.evaluate left).result = .error (.undefined "z" ⟨2, 0⟩) ∧
    (shadowing.evaluate right).result = .error (.undefined "z" ⟨2, 0⟩) ∧
    (∃ value, (shadowing.evaluate left).table.get? "y" = some value ∧
      (shadowing.evaluate right).table.get? "y" = some value) ∧
    (shadowing.evaluate right).table.get? "w" = none := by
  intro left right
  have hagree : ∀ name, Exposed name (shadowing.statements.flatMap Node.walk) →
      left.get? name = right.get? name := by
    intro name hname
    have hcases : "x" = name ∨ "x" ≠ name ∧ "y" ≠ name ∧ ("y" = name ∨ "z" = name ∨ False) := hname
    rcases hcases with rfl | ⟨_, hy, rfl | rfl | h⟩
    · rfl
    · exact absurd rfl hy
    · rfl
    · exact h.elim
  have hfailure : (shadowing.evaluate left).result = .error (.undefined "z" ⟨2, 0⟩) :=
    (Node.evaluateAll_eq_error_iff _ left _).mpr rfl
  have hlog : storedNames (shadowing.evaluate left).log = ["x", "y"] := by
    simp only [Program.evaluate, shadowing, ofStatements, Node.evaluateAll_cons]
    rfl
  obtain ⟨hresult, _, hstored, hother, _⟩ := shadowing.evaluate_depends_on_exposed hagree
  rw [hlog] at hstored hother
  exact ⟨hagree, hfailure, hresult ▸ hfailure, hstored "y" (by decide), (hother "w" (by decide)).2⟩

end Program

end Calculator
