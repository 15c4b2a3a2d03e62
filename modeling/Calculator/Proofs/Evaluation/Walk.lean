import Calculator.Proofs.Evaluation.Statements

/-! # The walk that an evaluation makes

Which names a tree reads and stores, and in which order, is told by the tree alone: operands come
from left to right and before their operator, a store after its value. An evaluation makes this walk
up to the first name without a value or the first node that is no expression, and there it fails.
-/
namespace Calculator

/-- What a walk does at a node. -/
inductive Access where
  | read (name : String) (location : Location)
  | store (name : String)
  /-- The node is no expression. -/
  | reject (node : Node)

namespace Access

def stored? : Access → Option String
  | store name => some name
  | _ => none

def stores (walk : List Access) : List String :=
  walk.filterMap stored?

/-- Where a walk fails, when it begins with the given names defined. -/
def failure? (defined : String → Bool) : List Access → Option EvalError
  | [] => none
  | read name location :: rest =>
    if defined name then failure? defined rest else some (.undefined name location)
  | store name :: rest => failure? (fun other => decide (name = other) || defined other) rest
  | reject node :: _ => some (.notAnExpression node)

section
variable (defined : String → Bool) (rest : List Access)

theorem failure?_read (name : String) (location : Location) :
    failure? defined (read name location :: rest) =
      if defined name then failure? defined rest else some (.undefined name location) := rfl

theorem failure?_store (name : String) :
    failure? defined (store name :: rest) =
      failure? (fun other => decide (name = other) || defined other) rest := rfl

end

theorem stores_append (walk more : List Access) : stores (walk ++ more) = stores walk ++ stores more :=
  List.filterMap_append

theorem reject_notMem_of_failure?_eq_none {defined : String → Bool} {walk : List Access}
    (h : failure? defined walk = none) (node : Node) : reject node ∉ walk := by
  induction walk generalizing defined with
  | nil => simp
  | cons access rest ih =>
    cases access with
    | read name location =>
      rw [failure?_read] at h
      split at h
      · simpa using ih h
      · cases h
    | store name =>
      rw [failure?_store] at h
      simpa using ih h
    | reject other => cases h

end Access

open Access

/-- The walk of a tree. -/
def Node.walk : Node → List Access
  | number .. => []
  | identifier name location => [.read name location]
  | binary _ left right _ => left.walk ++ right.walk
  | assignment name value _ => value.walk ++ [.store name]
  | root statements location => [.reject (.root statements location)]
  | missing => [.reject .missing]

def SymbolTable.defines (table : SymbolTable) (name : String) : Bool :=
  (table.get? name).isSome

theorem SymbolTable.defines_insert (table : SymbolTable) (name : String) (value : Float) :
    SymbolTable.defines (table.insert name value) =
      fun other => decide (name = other) || table.defines other := by
  funext other
  by_cases h : name = other <;> simp [defines, NameMap.get?_insert, h]

def Event.stored? : Event → Option String
  | stored name _ => some name
  | _ => none

def storedNames (log : List Event) : List String :=
  log.filterMap Event.stored?

namespace Evaluation

variable {α β : Type}

/-- An evaluation from a table makes a walk: it fails where the walk fails, whatever comes after, and
it stores along the walk, as far as it gets. -/
structure Follows (walk : List Access) (table : SymbolTable) (done : Evaluation α) : Prop where
  failure_of_error : ∀ e, done.result = .error e → ∀ rest,
    failure? table.defines (walk ++ rest) = some e
  failure_of_ok : ∀ a, done.result = .ok a → ∀ rest,
    failure? table.defines (walk ++ rest) = failure? done.table.defines rest
  stores_prefix : storedNames done.log <+: stores walk
  stores_of_ok : ∀ a, done.result = .ok a → storedNames done.log = stores walk

theorem Follows.andThen {walk more : List Access} {table : SymbolTable} {first : Evaluation α}
    (h : Follows walk table first) {next : α → SymbolTable → Evaluation β}
    (hnext : ∀ a table, Follows more table (next a table)) :
    Follows (walk ++ more) table (first.andThen next) := by
  cases hfirst : first.result with
  | error e =>
    rw [andThen_of_error hfirst]
    refine ⟨?_, nofun, ?_, nofun⟩
    · intro other hother rest
      obtain rfl : e = other := Except.error.inj hother
      rw [List.append_assoc]
      exact h.failure_of_error e hfirst (more ++ rest)
    · rw [stores_append]
      exact h.stores_prefix.trans (List.prefix_append _ _)
  | ok a =>
    have hsecond := hnext a first.table
    have hlog : storedNames (first.log ++ (next a first.table).log) =
        stores walk ++ storedNames (next a first.table).log := by
      rw [storedNames, List.filterMap_append, ← h.stores_of_ok a hfirst]
      rfl
    rw [andThen_of_ok hfirst]
    refine ⟨?_, ?_, ?_, ?_⟩
    · intro e he rest
      rw [List.append_assoc, h.failure_of_ok a hfirst]
      exact hsecond.failure_of_error e he rest
    · intro b hb rest
      rw [List.append_assoc, h.failure_of_ok a hfirst]
      exact hsecond.failure_of_ok b hb rest
    · rw [hlog, stores_append]
      exact (List.prefix_append_right_inj _).mpr hsecond.stores_prefix
    · intro b hb
      rw [hlog, stores_append, hsecond.stores_of_ok b hb]

theorem follows_ok (a : α) (table : SymbolTable) : Follows [] table ⟨.ok a, table, []⟩ :=
  ⟨nofun, fun _ _ _ => rfl, List.prefix_rfl, fun _ _ => rfl⟩

theorem follows_reject (node : Node) (table : SymbolTable) :
    Follows [.reject node] table (⟨.error (.notAnExpression node), table, []⟩ : Evaluation α) := by
  refine ⟨?_, nofun, List.nil_prefix, nofun⟩
  intro e he rest
  rw [← Except.error.inj he]
  rfl

theorem follows_read {name : String} {table : SymbolTable} {value : Float}
    (h : table.get? name = some value) (location : Location) (a : α) :
    Follows [.read name location] table ⟨.ok a, table, []⟩ := by
  refine ⟨nofun, ?_, List.nil_prefix, fun _ _ => rfl⟩
  intro _ _ rest
  simp [failure?_read, SymbolTable.defines, h]

theorem follows_undefined {name : String} {table : SymbolTable} (h : table.get? name = none)
    (location : Location) :
    Follows [.read name location] table
      (⟨.error (.undefined name location), table, []⟩ : Evaluation α) := by
  refine ⟨?_, nofun, List.nil_prefix, nofun⟩
  intro e he rest
  rw [← Except.error.inj he]
  simp [failure?_read, SymbolTable.defines, h]

theorem follows_store (name : String) (value : Float) (a : α) (table : SymbolTable) :
    Follows [.store name] table ⟨.ok a, table.insert name value, [.stored name value]⟩ := by
  refine ⟨nofun, ?_, List.prefix_rfl, fun _ _ => rfl⟩
  intro _ _ rest
  rw [SymbolTable.defines_insert]
  rfl

end Evaluation

namespace Node
open Evaluation

theorem follows_meaning (node : Node) (table : SymbolTable) :
    Follows node.walk table (node.meaning table) := by
  match node with
  | .number value location => exact follows_ok value table
  | .root statements location => exact follows_reject _ table
  | .missing => exact follows_reject _ table
  | .identifier name location =>
    rw [walk, meaning_identifier]
    cases hget : table.get? name with
    | some value => exact follows_read hget location value
    | none => exact follows_undefined hget location
  | .binary op left right location =>
    rw [walk, meaning_binary]
    apply (follows_meaning left table).andThen
    intro l table
    rw [← List.append_nil right.walk]
    apply (follows_meaning right table).andThen
    intro r table
    exact follows_ok _ table
  | .assignment name value location =>
    rw [walk, meaning_assignment]
    apply (follows_meaning value table).andThen
    intro v table
    exact follows_store name v v table

theorem follows_evaluateAll (nodes : List Node) (table : SymbolTable) :
    Follows (nodes.flatMap walk) table (evaluateAll nodes table) := by
  induction nodes generalizing table with
  | nil => exact follows_ok [] table
  | cons node rest ih =>
    rw [evaluateAll_cons, List.flatMap_cons]
    apply (node.follows_meaning table).andThen
    intro value table
    rw [← List.append_nil (rest.flatMap walk)]
    apply (ih table).andThen
    intro values table
    exact follows_ok _ table

/-- Statements fail where their walk fails, and only there. -/
theorem evaluateAll_eq_error_iff (nodes : List Node) (table : SymbolTable) (e : EvalError) :
    (evaluateAll nodes table).result = .error e ↔
      failure? table.defines (nodes.flatMap walk) = some e := by
  have hfollows := follows_evaluateAll nodes table
  cases hdone : (evaluateAll nodes table).result with
  | ok values =>
    have hnone := hfollows.failure_of_ok values hdone []
    rw [List.append_nil] at hnone
    rw [hnone]
    exact ⟨nofun, nofun⟩
  | error other =>
    have hsome := hfollows.failure_of_error other hdone []
    rw [List.append_nil] at hsome
    rw [hsome, Option.some.injEq, Except.error.injEq]

end Node

end Calculator
