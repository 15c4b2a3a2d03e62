import Calculator.Evaluation

/-! # Evaluation on stacks is evaluation by recursion

`meaning` evaluates a tree by recursion: operands from left to right, then the operator, each on the
table that the one before has left. The tasks and values on the stacks compute the same, for every
tree, table and rest of the stacks: the result or the error, the table and the log.
-/
namespace Calculator

namespace Evaluation

variable {α β γ : Type}

/-- One evaluation after another; the second is not begun if the first fails. -/
def andThen (first : Evaluation α) (next : α → SymbolTable → Evaluation β) : Evaluation β :=
  match first.result with
  | .error e => ⟨.error e, first.table, first.log⟩
  | .ok a =>
    let second := next a first.table
    ⟨second.result, second.table, first.log ++ second.log⟩

theorem andThen_of_ok {first : Evaluation α} {a : α} (h : first.result = .ok a)
    (next : α → SymbolTable → Evaluation β) : first.andThen next =
      ⟨(next a first.table).result, (next a first.table).table,
        first.log ++ (next a first.table).log⟩ := by
  simp [andThen, h]

theorem andThen_of_error {first : Evaluation α} {e : EvalError} (h : first.result = .error e)
    (next : α → SymbolTable → Evaluation β) :
    first.andThen next = ⟨.error e, first.table, first.log⟩ := by
  simp [andThen, h]

@[simp] theorem andThen_error (e : EvalError) (table : SymbolTable) (log : List Event)
    (next : α → SymbolTable → Evaluation β) :
    (⟨.error e, table, log⟩ : Evaluation α).andThen next = ⟨.error e, table, log⟩ := rfl

@[simp] theorem andThen_ok_nil (a : α) (table : SymbolTable)
    (next : α → SymbolTable → Evaluation β) :
    (⟨.ok a, table, []⟩ : Evaluation α).andThen next = next a table := rfl

theorem andThen_assoc (first : Evaluation α) (second : α → SymbolTable → Evaluation β)
    (third : β → SymbolTable → Evaluation γ) :
    (first.andThen second).andThen third =
      first.andThen fun a table => (second a table).andThen third := by
  cases hfirst : first.result with
  | error e => rw [andThen_of_error hfirst, andThen_of_error hfirst, andThen_error]
  | ok a =>
    rw [andThen_of_ok hfirst, andThen_of_ok hfirst]
    cases hsecond : (second a first.table).result with
    | error e => rw [andThen_of_error hsecond, andThen_error]
    | ok b =>
      rw [andThen_of_ok hsecond, andThen_of_ok (a := b) rfl, List.append_assoc]

def mapError (g : EvalError → EvalError) (done : Evaluation α) : Evaluation α :=
  { done with result := done.result.mapError g }

theorem mapError_andThen (g : EvalError → EvalError) (first : Evaluation α)
    (next : α → SymbolTable → Evaluation β) :
    (first.mapError g).andThen (fun a table => (next a table).mapError g) =
      (first.andThen next).mapError g := by
  obtain ⟨result, table, log⟩ := first
  cases result <;> rfl

theorem mapError_of_ok {done : Evaluation α} {a : α} (h : done.result = .ok a)
    (g : EvalError → EvalError) : done.mapError g = done := by
  obtain ⟨result, table, log⟩ := done
  obtain rfl : result = .ok a := h
  rfl

theorem mapError_of_error {done : Evaluation α} {e : EvalError} (h : done.result = .error e)
    (g : EvalError → EvalError) : done.mapError g = ⟨.error (g e), done.table, done.log⟩ := by
  rw [mapError, h]
  rfl

end Evaluation

/-- An error where nodes that are no expressions are rejected in another way. -/
def EvalError.rejectedBy (reject : Node → EvalError) : EvalError → EvalError
  | notAnExpression node => reject node
  | e => e

/-- The table after the stores that a log records, in their order. -/
def replay (log : List Event) (table : SymbolTable) : SymbolTable :=
  log.foldl (fun table event =>
    match event with
    | .stored name value => table.insert name value
    | _ => table) table

theorem replay_append (log more : List Event) (table : SymbolTable) :
    replay (log ++ more) table = replay more (replay log table) := by
  simp [replay]

/-- An evaluation from a table that does not run short and has made the stores of its log, no
others. -/
structure Evaluation.Faithful {α : Type} (table : SymbolTable) (done : Evaluation α) : Prop where
  ne_defect : ∀ d, done.result ≠ .error (.defect d)
  table_eq : done.table = replay done.log table

theorem Evaluation.Faithful.andThen {α β : Type} {table : SymbolTable} {first : Evaluation α}
    (h : Faithful table first) {next : α → SymbolTable → Evaluation β}
    (hnext : ∀ a table, Faithful table (next a table)) : Faithful table (first.andThen next) := by
  cases hfirst : first.result with
  | error e =>
    rw [andThen_of_error hfirst]
    refine ⟨?_, h.table_eq⟩
    intro d hd
    obtain rfl : e = .defect d := by simpa using hd
    exact h.ne_defect d hfirst
  | ok a =>
    rw [andThen_of_ok hfirst]
    refine ⟨(hnext a first.table).ne_defect, ?_⟩
    rw [replay_append, ← h.table_eq]
    exact (hnext a first.table).table_eq

namespace Node
open Evaluation

/-- The value of a tree by recursion. -/
def meaning : Node → SymbolTable → Evaluation Float
  | number value _, table => ⟨.ok value, table, []⟩
  | identifier name location, table =>
    match table.get? name with
    | some value => ⟨.ok value, table, []⟩
    | none => ⟨.error (.undefined name location), table, []⟩
  | binary op left right _, table =>
    (left.meaning table).andThen fun l table =>
      (right.meaning table).andThen fun r table => ⟨.ok (op.apply l r), table, []⟩
  | assignment name value _, table =>
    (value.meaning table).andThen fun v table => ⟨.ok v, table.insert name v, [.stored name v]⟩
  | root statements location, table =>
    ⟨.error (.notAnExpression (.root statements location)), table, []⟩
  | missing, table => ⟨.error (.notAnExpression .missing), table, []⟩

@[simp] theorem meaning_number (value : Float) (location : Location) (table : SymbolTable) :
    (number value location).meaning table = ⟨.ok value, table, []⟩ := rfl

theorem meaning_identifier (name : String) (location : Location) (table : SymbolTable) :
    (identifier name location).meaning table =
      match table.get? name with
      | some value => ⟨.ok value, table, []⟩
      | none => ⟨.error (.undefined name location), table, []⟩ := rfl

theorem meaning_binary (op : Operator) (left right : Node) (location : Location)
    (table : SymbolTable) :
    (binary op left right location).meaning table =
      (left.meaning table).andThen fun l table =>
        (right.meaning table).andThen fun r table => ⟨.ok (op.apply l r), table, []⟩ := rfl

theorem meaning_assignment (name : String) (value : Node) (location : Location)
    (table : SymbolTable) :
    (assignment name value location).meaning table =
      (value.meaning table).andThen fun v table => ⟨.ok v, table.insert name v, [.stored name v]⟩ :=
  rfl

@[simp] theorem meaning_root (statements : List Node) (location : Location) (table : SymbolTable) :
    (root statements location).meaning table =
      ⟨.error (.notAnExpression (.root statements location)), table, []⟩ := rfl

@[simp] theorem meaning_missing (table : SymbolTable) :
    missing.meaning table = ⟨.error (.notAnExpression .missing), table, []⟩ := rfl

end Node

namespace Task
open Evaluation

variable (reject : Node → EvalError)

theorem execWith_apply (op : Operator) (l r : Float) (tasks : List Task) (values : List Float)
    (table : SymbolTable) :
    execWith reject (.apply op :: tasks) (r :: l :: values) table =
      execWith reject tasks (op.apply l r :: values) table := by
  rw [execWith]

theorem execWith_store (name : String) (value : Float) (tasks : List Task) (values : List Float)
    (table : SymbolTable) :
    execWith reject (.store name :: tasks) (value :: values) table =
      (⟨.ok value, table.insert name value, [.stored name value]⟩ : Evaluation Float).andThen
        fun value table => execWith reject tasks (value :: values) table := by
  rw [execWith]
  rfl

/-- A tree on top of the tasks is evaluated to its meaning, whatever is left to be done and whatever
values wait below; only a rejected node may have another error. -/
theorem execWith_visit (node : Node) (tasks : List Task) (values : List Float) (table : SymbolTable) :
    execWith reject (.visit node :: tasks) values table =
      ((node.meaning table).mapError (.rejectedBy reject)).andThen fun value table =>
        execWith reject tasks (value :: values) table := by
  match node with
  | .number value location =>
    rw [execWith]
    rfl
  | .identifier name location =>
    rw [execWith, Node.meaning_identifier]
    cases table.get? name <;> rfl
  | .binary op left right location =>
    rw [execWith, Node.meaning_binary, execWith_visit left, ← mapError_andThen, andThen_assoc]
    congr 1
    funext l table
    rw [execWith_visit right, ← mapError_andThen, andThen_assoc]
    congr 1
    funext r table
    exact execWith_apply reject op l r tasks values table
  | .assignment name value location =>
    rw [execWith, Node.meaning_assignment, execWith_visit value, ← mapError_andThen,
      andThen_assoc]
    congr 1
    funext v table
    exact execWith_store reject name v tasks values table
  | .root statements location =>
    rw [execWith]
    rfl
  | .missing =>
    rw [execWith]
    rfl

end Task

namespace Node
open Evaluation

section
variable (reject : Node → EvalError) (node : Node) (table : SymbolTable)

theorem evaluateWith_eq_mapError :
    node.evaluateWith reject table = (node.meaning table).mapError (.rejectedBy reject) := by
  rw [evaluateWith, Task.execWith_visit]
  cases h : (node.meaning table).result with
  | error e => rw [mapError_of_error h, andThen_error]
  | ok value =>
    rw [mapError_of_ok h, andThen_of_ok h, Task.execWith, List.append_nil]
    exact congrArg (Evaluation.mk · _ _) h.symm

/-- The tasks of a tree end with its value alone, or with its error. -/
theorem execWith_visit_singleton :
    Task.execWith reject [.visit node] [] table =
      ⟨(node.evaluateWith reject table).result.map ([·]), (node.evaluateWith reject table).table,
        (node.evaluateWith reject table).log⟩ := by
  rw [evaluateWith_eq_mapError, Task.execWith_visit]
  generalize (node.meaning table).mapError _ = done
  cases h : done.result with
  | error e => rw [andThen_of_error h]; rfl
  | ok value => simp [andThen_of_ok h, Task.execWith, Except.map]

theorem evaluate_eq_meaning : node.evaluate table = node.meaning table := by
  rw [evaluate, evaluateWith_eq_mapError]
  cases h : (node.meaning table).result with
  | ok value => exact mapError_of_ok h _
  | error e =>
    rw [mapError_of_error h]
    cases e <;> exact congrArg (Evaluation.mk · _ _) h.symm

end

theorem faithful_meaning (node : Node) (table : SymbolTable) :
    Faithful table (node.meaning table) := by
  match node with
  | .number .. | .root .. | .missing => exact ⟨by simp, rfl⟩
  | .identifier name location =>
    rw [meaning_identifier]
    cases table.get? name with
    | some value => exact ⟨by simp, rfl⟩
    | none => exact ⟨by simp, rfl⟩
  | .binary op left right location =>
    apply (faithful_meaning left table).andThen
    intro l table
    apply (faithful_meaning right table).andThen
    intro r table
    exact ⟨by simp, rfl⟩
  | .assignment name value location =>
    apply (faithful_meaning value table).andThen
    intro v table
    exact ⟨by simp, rfl⟩

end Node

end Calculator
