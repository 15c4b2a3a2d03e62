import Calculator.Proofs.Evaluation.Recursion
import Calculator.Proofs.Grammar.Basic

/-! # Evaluation of statements

Expressions only read the table. A statement that fails leaves no trace, since its assignment, if it
has one, would come last; and the name that it reports stands among its tokens. Statements in a row
are evaluated as the first of them followed by the others.
-/
namespace Calculator

namespace Evaluation

variable {α β : Type}

theorem error_of_andThen {first : Evaluation α} {next : α → SymbolTable → Evaluation β}
    {e : EvalError} (h : (first.andThen next).result = .error e) :
    first.result = .error e ∧ (first.andThen next).table = first.table ∨
      ∃ a, first.result = .ok a ∧ (next a first.table).result = .error e ∧
        (first.andThen next).table = (next a first.table).table := by
  cases hfirst : first.result with
  | error other =>
    rw [andThen_of_error hfirst] at h ⊢
    obtain rfl : other = e := by simpa using h
    exact Or.inl ⟨rfl, rfl⟩
  | ok a =>
    rw [andThen_of_ok hfirst] at h ⊢
    exact Or.inr ⟨a, rfl, h, rfl⟩

end Evaluation

open Evaluation

theorem Node.IsExpression.meaning_eq {node : Node} (h : node.IsExpression) (table : SymbolTable) :
    node.meaning table = ⟨(node.meaning table).result, table, []⟩ := by
  induction h with
  | number value location => rfl
  | identifier name location =>
    rw [Node.meaning_identifier]
    cases table.get? name <;> rfl
  | @binary op left right location _ _ ihleft ihright =>
    rw [Node.meaning_binary]
    cases hl : (left.meaning table).result with
    | error e =>
      rw [hl] at ihleft
      rw [ihleft, andThen_error]
    | ok l =>
      rw [hl] at ihleft
      rw [ihleft, andThen_ok_nil]
      cases hr : (right.meaning table).result with
      | error e =>
        rw [hr] at ihright
        rw [ihright, andThen_error]
      | ok r =>
        rw [hr] at ihright
        rw [ihright, andThen_ok_nil]

theorem Node.IsExpression.table_meaning {node : Node} (h : node.IsExpression) (table : SymbolTable) :
    (node.meaning table).table = table := by
  rw [h.meaning_eq]

theorem Node.IsExpression.log_meaning {node : Node} (h : node.IsExpression) (table : SymbolTable) :
    (node.meaning table).log = [] := by
  rw [h.meaning_eq]

theorem Node.IsExpression.result_binary {left : Node} (h : left.IsExpression) (op : Operator)
    (right : Node) (location : Location) (table : SymbolTable) :
    ((Node.binary op left right location).meaning table).result =
      (left.meaning table).result.bind fun l => (right.meaning table).result.map (op.apply l) := by
  rw [Node.meaning_binary]
  cases hl : (left.meaning table).result with
  | error e =>
    rw [andThen_of_error hl]
    rfl
  | ok l =>
    rw [andThen_of_ok hl, h.table_meaning]
    cases hr : (right.meaning table).result with
    | error e =>
      rw [andThen_of_error hr]
      rfl
    | ok r =>
      rw [andThen_of_ok hr]
      rfl

theorem Node.IsExpression.undefined_of_error {node : Node} (h : node.IsExpression)
    {table : SymbolTable} {e : EvalError} (herror : (node.meaning table).result = .error e) :
    ∃ name location, e = .undefined name location := by
  induction h generalizing table with
  | number => cases herror
  | identifier name location =>
    rw [Node.meaning_identifier] at herror
    cases hget : table.get? name with
    | some value => simp [hget] at herror
    | none => exact ⟨name, location, by simpa [hget] using herror.symm⟩
  | binary op location _ _ ihleft ihright =>
    rcases error_of_andThen herror with ⟨hleft, _⟩ | ⟨l, _, hrest, _⟩
    · exact ihleft hleft
    · rcases error_of_andThen hrest with ⟨hright, _⟩ | ⟨r, _, hvalue, _⟩
      · exact ihright hright
      · cases hvalue

/-- A statement fails for a name, and for nothing else. -/
theorem Node.IsStatement.undefined_of_error {node : Node} (h : node.IsStatement)
    {table : SymbolTable} {e : EvalError} (herror : (node.meaning table).result = .error e) :
    ∃ name location, e = .undefined name location := by
  cases h with
  | expression h => exact h.undefined_of_error herror
  | assignment _ _ h =>
    rcases error_of_andThen herror with ⟨hvalue, _⟩ | ⟨v, _, hstore, _⟩
    · exact h.undefined_of_error hvalue
    · cases hstore

/-- A statement that fails leaves no trace and no entry. -/
theorem Node.IsStatement.meaning_of_error {node : Node} (h : node.IsStatement)
    {table : SymbolTable} {e : EvalError} (herror : (node.meaning table).result = .error e) :
    node.meaning table = ⟨.error e, table, []⟩ := by
  cases h with
  | expression h => rw [h.meaning_eq, herror]
  | assignment _ _ h =>
    rcases error_of_andThen herror with ⟨hvalue, _⟩ | ⟨v, _, hstore, _⟩
    · rw [Node.meaning_assignment, andThen_of_error hvalue, h.table_meaning, h.log_meaning]
    · cases hstore

theorem Derives.exists_token_of_undefined {symbol : Nonterminal} {tokens : List Token} {node : Node}
    (h : Derives symbol tokens node) {table : SymbolTable} {name : String} {location : Location}
    (herror : (node.meaning table).result = .error (.undefined name location)) :
    ∃ token ∈ tokens, token.kind = .identifier ∧ token.lexeme = name ∧ token.location = location := by
  induction h generalizing table with
  | number => simp at herror
  | @identifier token hkind =>
    rw [Node.meaning_identifier] at herror
    cases hget : table.get? token.lexeme with
    | some value => simp [hget] at herror
    | none =>
      obtain ⟨rfl, rfl⟩ : token.lexeme = name ∧ token.location = location := by
        simpa [hget] using herror
      exact ⟨token, by simp, hkind, rfl, rfl⟩
  | group _ _ _ ih =>
    obtain ⟨token, htoken, hfacts⟩ := ih herror
    exact ⟨token, by simp [htoken], hfacts⟩
  | tighter _ ih => exact ih herror
  | binary _ _ _ ihleft ihright =>
    rw [Node.meaning_binary] at herror
    rcases error_of_andThen herror with ⟨hleft, _⟩ | ⟨l, _, hrest, _⟩
    · obtain ⟨token, htoken, hfacts⟩ := ihleft hleft
      exact ⟨token, List.mem_append_left _ htoken, hfacts⟩
    · rcases error_of_andThen hrest with ⟨hright, _⟩ | ⟨r, _, hvalue, _⟩
      · obtain ⟨token, htoken, hfacts⟩ := ihright hright
        exact ⟨token, by simp [htoken], hfacts⟩
      · cases hvalue

theorem Sentence.exists_token_of_undefined {tokens : List Token} {node : Node}
    (h : Sentence tokens node) {table : SymbolTable} {name : String} {location : Location}
    (herror : (node.meaning table).result = .error (.undefined name location)) :
    ∃ token ∈ tokens, token.kind = .identifier ∧ token.lexeme = name ∧ token.location = location := by
  cases h with
  | expression h => exact h.exists_token_of_undefined herror
  | assignment _ _ h =>
    rcases error_of_andThen herror with ⟨hvalue, _⟩ | ⟨v, _, hstore, _⟩
    · obtain ⟨token, htoken, hfacts⟩ := h.exists_token_of_undefined hvalue
      exact ⟨token, by simp [htoken], hfacts⟩
    · cases hstore

namespace Node

theorem evaluateAll_nil (table : SymbolTable) : evaluateAll [] table = ⟨.ok [], table, []⟩ := by
  rw [evaluateAll]

theorem evaluateAll_cons (node : Node) (rest : List Node) (table : SymbolTable) :
    evaluateAll (node :: rest) table =
      (node.meaning table).andThen fun value table =>
        (evaluateAll rest table).andThen fun values table => ⟨.ok (value :: values), table, []⟩ := by
  rw [evaluateAll, evaluate_eq_meaning]
  cases hnode : (node.meaning table).result with
  | error e => rw [andThen_of_error hnode]
  | ok value =>
    rw [andThen_of_ok hnode]
    cases hrest : (evaluateAll rest (node.meaning table).table).result with
    | error e =>
      rw [andThen_of_error hrest]
      simp [hrest, Except.map]
    | ok values =>
      rw [andThen_of_ok hrest]
      simp [hrest, Except.map]

theorem evaluateAll_cons_of_error {node : Node} {table : SymbolTable} {e : EvalError}
    (h : (node.meaning table).result = .error e) (rest : List Node) :
    evaluateAll (node :: rest) table =
      ⟨.error e, (node.meaning table).table, (node.meaning table).log⟩ := by
  rw [evaluateAll_cons, andThen_of_error h]

theorem evaluateAll_cons_of_ok {node : Node} {table : SymbolTable} {value : Float}
    (h : (node.meaning table).result = .ok value) (rest : List Node) :
    evaluateAll (node :: rest) table =
      ⟨(evaluateAll rest (node.meaning table).table).result.map (value :: ·),
        (evaluateAll rest (node.meaning table).table).table,
        (node.meaning table).log ++ (evaluateAll rest (node.meaning table).table).log⟩ := by
  rw [evaluateAll, evaluate_eq_meaning, h]

theorem result_evaluateAll_cons {node : Node} {table : SymbolTable} {value : Float}
    (h : (node.meaning table).result = .ok value) (rest : List Node) :
    (evaluateAll (node :: rest) table).result =
      (evaluateAll rest (node.meaning table).table).result.map (value :: ·) := by
  rw [evaluateAll_cons_of_ok h]

theorem evaluateAll_singleton (node : Node) (table : SymbolTable) :
    evaluateAll [node] table = ⟨(node.meaning table).result.map ([·]), (node.meaning table).table,
      (node.meaning table).log⟩ := by
  rw [evaluateAll_cons]
  cases h : (node.meaning table).result with
  | error e =>
    rw [andThen_of_error h]
    rfl
  | ok value => simp [andThen_of_ok h, evaluateAll, Except.map]

theorem evaluateAll_assigned {table : SymbolTable} {name other : String} {value : Float}
    (h : table.get? other = some value) (place location : Location) (rest : List Node) :
    evaluateAll (assignment name (identifier other place) location :: rest) table =
      ⟨(evaluateAll rest (table.insert name value)).result.map (value :: ·),
        (evaluateAll rest (table.insert name value)).table,
        .stored name value :: (evaluateAll rest (table.insert name value)).log⟩ := by
  have hmeaning : (assignment name (identifier other place) location).meaning table =
      ⟨.ok value, table.insert name value, [.stored name value]⟩ := by
    rw [meaning_assignment, meaning_identifier, h, andThen_ok_nil]
  rw [evaluateAll_cons_of_ok (by rw [hmeaning]), hmeaning, List.singleton_append]

theorem evaluateAll_assigned_undefined {table : SymbolTable} {other : String}
    (h : table.get? other = none) (name : String) (place location : Location) (rest : List Node) :
    evaluateAll (assignment name (identifier other place) location :: rest) table =
      ⟨.error (.undefined other place), table, []⟩ := by
  rw [evaluateAll_cons, meaning_assignment, meaning_identifier, h, andThen_error, andThen_error]

theorem evaluateAll_append (front back : List Node) (table : SymbolTable) :
    evaluateAll (front ++ back) table =
      (evaluateAll front table).andThen fun values table =>
        (evaluateAll back table).andThen fun more table => ⟨.ok (values ++ more), table, []⟩ := by
  induction front generalizing table with
  | nil =>
    rw [evaluateAll, andThen_ok_nil, List.nil_append]
    cases hback : (evaluateAll back table).result with
    | error e => rw [andThen_of_error hback, ← hback]
    | ok more => rw [andThen_of_ok hback, List.append_nil, List.nil_append, ← hback]
  | cons node front ih =>
    rw [List.cons_append, evaluateAll_cons, evaluateAll_cons, andThen_assoc]
    congr 1
    funext value table
    rw [ih, andThen_assoc, andThen_assoc]
    congr 1
    funext values table
    rw [andThen_assoc, andThen_ok_nil]
    rfl

theorem length_of_evaluateAll {nodes : List Node} {table : SymbolTable} {results : List Float}
    (h : (evaluateAll nodes table).result = .ok results) : results.length = nodes.length := by
  induction nodes generalizing table results with
  | nil =>
    obtain rfl : results = [] := by simpa [evaluateAll] using h.symm
    rfl
  | cons node rest ih =>
    rw [evaluateAll_cons] at h
    cases hnode : (node.meaning table).result with
    | error e => simp [andThen_of_error hnode] at h
    | ok value =>
      rw [andThen_of_ok hnode] at h
      cases hrest : (evaluateAll rest (node.meaning table).table).result with
      | error e => simp [andThen_of_error hrest] at h
      | ok values =>
        obtain rfl : value :: values = results := by simpa [andThen_of_ok hrest] using h
        simp [ih hrest]

end Node

end Calculator
