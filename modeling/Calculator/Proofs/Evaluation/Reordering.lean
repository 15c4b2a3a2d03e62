import Mathlib.Data.List.FinRange
import Calculator.Proofs.Evaluation.Dependence

/-! # Statements in another order

Two statements conflict if one of them stores a name that the other reads or stores. Neighbours that
do not conflict may change places: each has the value that it had before, and the table is the same
behind them. By such swaps statements come into any order that keeps those in conflict as they are.
-/
namespace Calculator

/-- From the first list to the second by swaps of neighbours, where `free i j` allows to swap an `i`
with the `j` behind it. -/
inductive Swaps {ι : Type} (free : ι → ι → Prop) : List ι → List ι → Prop
  | refl (list : List ι) : Swaps free list list
  | swap {i j : ι} (h : free i j) (rest : List ι) : Swaps free (i :: j :: rest) (j :: i :: rest)
  | cons (i : ι) {first second : List ι} (h : Swaps free first second) :
    Swaps free (i :: first) (i :: second)
  | trans {first second third : List ι} (h : Swaps free first second)
    (hnext : Swaps free second third) : Swaps free first third

namespace Swaps

variable {ι : Type} {free : ι → ι → Prop}

theorem to_front {front : List ι} {pivot : ι} (h : ∀ i ∈ front, free i pivot) (back : List ι) :
    Swaps free (front ++ pivot :: back) (pivot :: (front ++ back)) := by
  induction front with
  | nil => exact refl _
  | cons i front ih =>
    obtain ⟨hi, hfront⟩ := List.forall_mem_cons.mp h
    exact ((ih hfront).cons i).trans (swap hi (front ++ back))

/-- From an ascending list any order can be reached in which what stands the wrong way round was
free to be swapped. -/
theorem of_perm [Preorder ι] {first second : List ι} (hfirst : first.Pairwise (· < ·))
    (hperm : second.Perm first) (h : second.Pairwise fun i j => i < j ∨ free j i) :
    Swaps free first second := by
  induction second generalizing first with
  | nil =>
    rw [List.nil_perm.mp hperm]
    exact refl []
  | cons pivot rest ih =>
    obtain ⟨front, back, rfl⟩ := List.append_of_mem (hperm.subset List.mem_cons_self)
    obtain ⟨hpivot, hrest⟩ := List.pairwise_cons.mp h
    have hperm : rest.Perm (front ++ back) := (hperm.trans List.perm_middle).cons_inv
    have hbefore : ∀ i ∈ front, i < pivot := fun i hi =>
      (List.pairwise_append.mp hfirst).2.2 i hi pivot List.mem_cons_self
    have hsublist : (front ++ back).Sublist (front ++ pivot :: back) :=
      (List.sublist_cons_self pivot back).append_left front
    apply (to_front _ back).trans ((ih (hfirst.sublist hsublist) hperm hrest).cons pivot)
    intro i hi
    have hmem : i ∈ rest := hperm.mem_iff.mpr (List.mem_append_left back hi)
    exact (hpivot i hmem).resolve_left (lt_asymm (hbefore i hi))

end Swaps

namespace Access

def read? : Access → Option String
  | read name _ => some name
  | _ => none

def reads (walk : List Access) : List String :=
  walk.filterMap read?

end Access

open Access

theorem Exposed.mem_reads {name : String} {walk : List Access} (h : Exposed name walk) :
    name ∈ reads walk := by
  induction walk with
  | nil => exact h.elim
  | cons access rest ih =>
    cases access with
    | read other =>
      change name ∈ other :: reads rest
      rcases h with rfl | h
      · exact List.mem_cons_self
      · exact List.mem_cons_of_mem _ (ih h)
    | store => exact ih h.2
    | reject => exact h.elim

theorem agreeOn_replay {walk : List Access} {log : List Event}
    (h : ∀ name ∈ storedNames log, name ∉ reads walk) (table : SymbolTable) :
    AgreeOn walk (replay log table) table := fun name hname =>
  get?_replay_of_notMem (fun hstored => h name hstored hname.mem_reads) table

theorem replay_comm {left right : List Event}
    (h : ∀ name ∈ storedNames left, name ∉ storedNames right) (table : SymbolTable) :
    replay left (replay right table) = replay right (replay left table) := by
  apply NameMap.ext_get?
  intro name
  by_cases hleft : name ∈ storedNames left
  · obtain ⟨value, hvalue⟩ := exists_get?_replay hleft
    rw [get?_replay_of_notMem (h name hleft), hvalue, hvalue]
  · rw [get?_replay_of_notMem hleft]
    by_cases hright : name ∈ storedNames right
    · obtain ⟨value, hvalue⟩ := exists_get?_replay hright
      rw [hvalue, hvalue]
    · rw [get?_replay_of_notMem hright, get?_replay_of_notMem hright, get?_replay_of_notMem hleft]

/-- An evaluation succeeds with the given result and table. -/
structure Evaluation.Ends {α : Type} (done : Evaluation α) (a : α) (after : SymbolTable) : Prop where
  result_eq : done.result = .ok a
  table_eq : done.table = after

namespace Node
open Evaluation

/-- One of two trees stores a name that the other reads or stores. -/
def Conflicts (first second : Node) : Prop :=
  (∃ name ∈ stores first.walk, name ∈ reads second.walk ∨ name ∈ stores second.walk) ∨
    ∃ name ∈ stores second.walk, name ∈ reads first.walk ∨ name ∈ stores first.walk

theorem Conflicts.symm {first second : Node} (h : first.Conflicts second) :
    second.Conflicts first :=
  Or.symm h

instance (first second : Node) : Decidable (first.Conflicts second) :=
  inferInstanceAs (Decidable (_ ∨ _))

/-- Trees in succession that do not conflict yield the same in the other order. -/
theorem ends_swap {first second : Node} (hfree : ¬ first.Conflicts second)
    {table middle after : SymbolTable} {v w : Float} (hfirst : (first.meaning table).Ends v middle)
    (hsecond : (second.meaning middle).Ends w after) :
    ∃ middle, (second.meaning table).Ends w middle ∧ (first.meaning middle).Ends v after := by
  obtain ⟨hv, rfl⟩ := hfirst
  obtain ⟨hw, rfl⟩ := hsecond
  obtain ⟨hfirst, hsecond⟩ := not_or.mp hfree
  have hstores := (first.follows_meaning table).stores_of_ok v hv
  -- The second tree does not notice that the first has not been evaluated yet.
  have hearly : Alike (second.meaning (first.meaning table).table) (second.meaning table) := by
    rw [(first.faithful_meaning table).table_eq]
    apply second.alike_meaning (agreeOn_replay _ table)
    intro name hname hread
    rw [hstores] at hname
    exact hfirst ⟨name, hname, Or.inl hread⟩
  have hw' : (second.meaning table).result = .ok w := hearly.result_eq.symm.trans hw
  have hstores' := (second.follows_meaning table).stores_of_ok w hw'
  -- Nor does the first notice that the second has been evaluated already.
  have hlate : Alike (first.meaning (second.meaning table).table) (first.meaning table) := by
    rw [(second.faithful_meaning table).table_eq]
    apply first.alike_meaning (agreeOn_replay _ table)
    intro name hname hread
    rw [hstores'] at hname
    exact hsecond ⟨name, hname, Or.inl hread⟩
  refine ⟨(second.meaning table).table, ⟨hw', rfl⟩, hlate.result_eq.trans hv, ?_⟩
  calc (first.meaning (second.meaning table).table).table
      = replay (first.meaning table).log (replay (second.meaning table).log table) := by
        rw [(first.faithful_meaning _).table_eq, hlate.log_eq,
          (second.faithful_meaning table).table_eq]
    _ = replay (second.meaning table).log (replay (first.meaning table).log table) := by
        apply replay_comm
        intro name hname hother
        rw [hstores] at hname
        rw [hstores'] at hother
        exact hfirst ⟨name, hname, Or.inr hother⟩
    _ = (second.meaning (first.meaning table).table).table := by
        rw [(second.faithful_meaning _).table_eq, hearly.log_eq,
          (first.faithful_meaning table).table_eq]

theorem ends_cons_iff {node : Node} {rest : List Node} {table after : SymbolTable} {value : Float}
    {values : List Float} :
    (evaluateAll (node :: rest) table).Ends (value :: values) after ↔
      ∃ middle, (node.meaning table).Ends value middle ∧
        (evaluateAll rest middle).Ends values after := by
  constructor
  · rintro ⟨hresult, htable⟩
    cases hnode : (node.meaning table).result with
    | error e =>
      rw [evaluateAll_cons_of_error hnode] at hresult
      cases hresult
    | ok found =>
      rw [evaluateAll_cons_of_ok hnode] at hresult htable
      cases hrest : (evaluateAll rest (node.meaning table).table).result with
      | error e =>
        rw [hrest] at hresult
        cases hresult
      | ok more =>
        rw [hrest] at hresult
        obtain ⟨rfl, rfl⟩ := List.cons.inj (Except.ok.inj hresult)
        exact ⟨_, ⟨hnode, rfl⟩, hrest, htable⟩
  · rintro ⟨_, ⟨hnode, rfl⟩, hrest, htable⟩
    rw [evaluateAll_cons_of_ok hnode]
    exact ⟨by rw [hrest]; rfl, htable⟩

/-- Swaps of trees that do not conflict take the values along and leave the table as it is. -/
theorem ends_of_swaps {ι : Type} {tree : ι → Node} {value : ι → Float} {first second : List ι}
    (h : Swaps (fun i j => ¬ (tree i).Conflicts (tree j)) first second) {table after : SymbolTable}
    (hfirst : (evaluateAll (first.map tree) table).Ends (first.map value) after) :
    (evaluateAll (second.map tree) table).Ends (second.map value) after := by
  induction h generalizing table with
  | refl => exact hfirst
  | swap hfree rest =>
    obtain ⟨_, hi, hrest⟩ := ends_cons_iff.mp hfirst
    obtain ⟨_, hj, hrest⟩ := ends_cons_iff.mp hrest
    obtain ⟨_, hj, hi⟩ := ends_swap hfree hi hj
    exact ends_cons_iff.mpr ⟨_, hj, ends_cons_iff.mpr ⟨_, hi, hrest⟩⟩
  | cons i _ ih =>
    obtain ⟨_, hi, hrest⟩ := ends_cons_iff.mp hfirst
    exact ends_cons_iff.mpr ⟨_, hi, ih hrest⟩
  | trans _ _ ihfirst ihnext => exact ihnext (ihfirst hfirst)

end Node

namespace Program

def reordered (program : Program) (order : List (Fin program.statements.length)) : Program :=
  { program with statements := order.map program.statements.get }

/-- If a program succeeds, then it succeeds with its statements in any other order that keeps any two
statements in conflict in their order: each statement has the result that it had, and the table
afterwards is the same. -/
theorem evaluate_reordered (program : Program) {table : SymbolTable} {results : List Float}
    (h : (program.evaluate table).result = .ok results)
    {order : List (Fin program.statements.length)}
    (hperm : order.Perm (List.finRange program.statements.length))
    (hkeeps : order.Pairwise fun i j =>
      (program.statements.get i).Conflicts (program.statements.get j) → i < j) :
    ∃ value : Fin program.statements.length → Float,
      results = (List.finRange program.statements.length).map value ∧
      ((program.reordered order).evaluate table).result = .ok (order.map value) ∧
      ((program.reordered order).evaluate table).table = (program.evaluate table).table := by
  have hlength : program.statements.length = results.length := (Node.length_of_evaluateAll h).symm
  let value := fun i : Fin program.statements.length => results.get (i.cast hlength)
  have hvalues : results = (List.finRange program.statements.length).map value := by
    apply List.ext_getElem <;> simp [value, hlength]
  have hstatements :
      program.statements = (List.finRange program.statements.length).map program.statements.get := by
    apply List.ext_getElem <;> simp
  have hswaps : Swaps (fun i j => ¬ (program.statements.get i).Conflicts (program.statements.get j))
      (List.finRange program.statements.length) order := by
    apply Swaps.of_perm (List.pairwise_lt_finRange _) hperm
    apply hkeeps.imp
    intro i j hij
    by_cases hconflict : (program.statements.get i).Conflicts (program.statements.get j)
    · exact Or.inl (hij hconflict)
    · exact Or.inr fun hother => hconflict hother.symm
  have hends : (Node.evaluateAll ((List.finRange program.statements.length).map
      program.statements.get) table).Ends ((List.finRange program.statements.length).map value)
      (program.evaluate table).table := by
    rw [← hstatements, ← hvalues]
    exact ⟨h, rfl⟩
  obtain ⟨hresult, htable⟩ := Node.ends_of_swaps hswaps hends
  exact ⟨value, hvalues, hresult, htable⟩

/-- The program `x = 1`, `p + (z = 2)`, `x + 1`, `z`: there are two pairs of statements in
conflict. -/
def interleaved : Program := .ofStatements
  [.assignment "x" (.number 1.0 ⟨0, 4⟩) ⟨0, 2⟩,
    .binary .add (.identifier "p" ⟨1, 0⟩) (.assignment "z" (.number 2.0 ⟨1, 9⟩) ⟨1, 7⟩) ⟨1, 2⟩,
    .binary .add (.identifier "x" ⟨2, 0⟩) (.number 1.0 ⟨2, 4⟩) ⟨2, 2⟩,
    .identifier "z" ⟨3, 0⟩]

theorem evaluate_interleaved_reordered :
    let table : SymbolTable := .ofList [("p", 3.0)]
    let order : List (Fin interleaved.statements.length) :=
      [⟨1, by decide⟩, ⟨3, by decide⟩, ⟨0, by decide⟩, ⟨2, by decide⟩]
    (interleaved.evaluate table).result =
      .ok [1.0, Operator.add.apply 3.0 2.0, Operator.add.apply 1.0 1.0, 2.0] ∧
    ((interleaved.reordered order).evaluate table).result =
      .ok [Operator.add.apply 3.0 2.0, 2.0, 1.0, Operator.add.apply 1.0 1.0] ∧
    ((interleaved.reordered order).evaluate table).table = (interleaved.evaluate table).table := by
  intro table order
  have hdone : (interleaved.evaluate table).result =
      .ok [1.0, Operator.add.apply 3.0 2.0, Operator.add.apply 1.0 1.0, 2.0] := by
    simp only [Program.evaluate, interleaved, ofStatements, Node.evaluateAll_cons]
    rfl
  have hperm : order.Perm (List.finRange _) := by decide
  obtain ⟨value, hvalue, hresult, htable⟩ := interleaved.evaluate_reordered hdone hperm (by decide)
  have hvalue : List.map value [⟨0, by decide⟩, ⟨1, by decide⟩, ⟨2, by decide⟩, ⟨3, by decide⟩] =
    [1.0, Operator.add.apply 3.0 2.0, Operator.add.apply 1.0 1.0, 2.0] := hvalue.symm
  simp only [List.map_cons, List.map_nil, List.cons.injEq] at hvalue
  obtain ⟨h0, h1, h2, h3, _⟩ := hvalue
  refine ⟨hdone, ?_, htable⟩
  rw [hresult]
  simp only [order, List.map_cons, List.map_nil, h0, h1, h2, h3]

end Program

end Calculator
