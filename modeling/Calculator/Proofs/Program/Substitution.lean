import Calculator.Proofs.Evaluation.Walk
import Calculator.Proofs.Program.RoundTrip

/-! # A name stands for its definition in parentheses

Where an expression has a value, a name that was assigned this value can be replaced by the
expression in parentheses. The tokens are still an expression, since a group is an operand like any
name, and it has the same outcome on the table before the assignment.
-/
namespace Calculator

open Evaluation

/-- The second tokens are the first ones with a group around the given tokens in the place of every
name `x`. What is inserted may stand anywhere. -/
inductive Substituted (x : String) (inserted : List Token) : List Token → List Token → Prop where
  | nil : Substituted x inserted [] []
  | keep {token : Token} {rest result : List Token} : token.key ≠ (.identifier, x) →
      Substituted x inserted rest result → Substituted x inserted (token :: rest) (token :: result)
  | replace {token opening closing : Token} {copy rest result : List Token} :
      token.key = (.identifier, x) → opening.kind = .leftParen →
      copy.map Token.key = inserted.map Token.key → closing.kind = .rightParen →
      Substituted x inserted rest result →
      Substituted x inserted (token :: rest) (opening :: (copy ++ closing :: result))

namespace Substituted

variable {x : String} {inserted : List Token}

theorem exists_append {left right result : List Token}
    (h : Substituted x inserted (left ++ right) result) :
    ∃ front back, result = front ++ back ∧ Substituted x inserted left front ∧
      Substituted x inserted right back := by
  induction left generalizing result with
  | nil => exact ⟨[], result, rfl, .nil, h⟩
  | cons token left ih =>
    rw [List.cons_append] at h
    cases h with
    | keep hkey h =>
      obtain ⟨front, back, rfl, hfront, hback⟩ := ih h
      exact ⟨token :: front, back, rfl, .keep hkey hfront, hback⟩
    | @replace _ opening closing copy _ _ hkey hopening hcopy hclosing h =>
      obtain ⟨front, back, rfl, hfront, hback⟩ := ih h
      exact ⟨opening :: (copy ++ closing :: front), back, by simp,
        .replace hkey hopening hcopy hclosing hfront, hback⟩

theorem exists_cons {token : Token} {rest result : List Token}
    (h : Substituted x inserted (token :: rest) result) (hkind : token.kind ≠ .identifier) :
    ∃ others, result = token :: others ∧ Substituted x inserted rest others := by
  cases h with
  | keep _ h => exact ⟨_, rfl, h⟩
  | replace hkey => exact absurd (Prod.mk.inj hkey).1 hkind

theorem eq_nil {result : List Token} (h : Substituted x inserted [] result) : result = [] := by
  cases h
  rfl

end Substituted

theorem Derives.exists_of_key_eq {symbol : Nonterminal} {tokens copy : List Token} {node : Node}
    (h : Derives symbol tokens node) (hcopy : copy.map Token.key = tokens.map Token.key) :
    ∃ other, Derives symbol copy other ∧ other.shape = node.shape := by
  induction h generalizing copy with
  | @number token value hkind hvalue =>
    obtain ⟨other, rfl, hother⟩ := List.map_eq_singleton_iff.mp hcopy
    obtain ⟨hotherKind, hlexeme⟩ := Prod.mk.inj hother
    exact ⟨_, .number (hotherKind.trans hkind) (hlexeme ▸ hvalue), rfl⟩
  | @identifier token hkind =>
    obtain ⟨other, rfl, hother⟩ := List.map_eq_singleton_iff.mp hcopy
    obtain ⟨hotherKind, hlexeme⟩ := Prod.mk.inj hother
    refine ⟨_, .identifier (hotherKind.trans hkind), ?_⟩
    rw [hlexeme]
    rfl
  | group hopening _ hclosing ih =>
    rw [List.map_cons, List.map_append] at hcopy
    obtain ⟨left, rest, rfl, hleft, hrest⟩ := List.map_eq_cons_iff.mp hcopy
    obtain ⟨inner, last, rfl, hinner, hlast⟩ := List.map_eq_append_iff.mp hrest
    obtain ⟨right, rfl, hright⟩ := List.map_eq_singleton_iff.mp hlast
    obtain ⟨other, hother, hshape⟩ := ih hinner
    exact ⟨other, .group ((Prod.mk.inj hleft).1.trans hopening) hother
      ((Prod.mk.inj hright).1.trans hclosing), hshape⟩
  | tighter _ ih =>
    obtain ⟨other, hother, hshape⟩ := ih hcopy
    exact ⟨other, .tighter hother, hshape⟩
  | binary _ hsign _ ihleft ihright =>
    rw [List.map_append, List.map_cons] at hcopy
    obtain ⟨front, rest, rfl, hfront, hrest⟩ := List.map_eq_append_iff.mp hcopy
    obtain ⟨sign, back, rfl, hkey, hback⟩ := List.map_eq_cons_iff.mp hrest
    obtain ⟨l, hl, hleft⟩ := ihleft hfront
    obtain ⟨r, hr, hright⟩ := ihright hback
    refine ⟨_, .binary hl ((Prod.mk.inj hkey).1.trans hsign) hr, ?_⟩
    rw [Node.shape, Node.relocate, ← Node.shape, ← Node.shape, hleft, hright]
    rfl

namespace Node

theorem meaning_of_shape_eq {node other : Node} (h : node.shape = other.shape) {table : SymbolTable}
    {value : Float} (hvalue : (other.meaning table).result = .ok value) :
    (node.meaning table).result = .ok value := by
  have hmeaning := congrArg (fun tree => (tree.meaning table).result) h
  simp only [shape, meaning_relocate, mapError, hvalue] at hmeaning
  cases hnode : (node.meaning table).result with
  | error e =>
    rw [hnode] at hmeaning
    cases hmeaning
  | ok result =>
    rw [hnode] at hmeaning
    exact hmeaning

end Node

/-- A symbol derives what it derived before, with groups in place of a name. The tree has the outcome
that the former tree has where the name has the value of the groups. -/
theorem Substituted.exists_derives {x : String} {inserted tokens result : List Token} {e node : Node}
    {symbol : Nonterminal} (h : Substituted x inserted tokens result)
    (hinserted : Derives .rightExpr inserted e) (hnode : Derives symbol tokens node)
    {table : SymbolTable} {value : Float} (hvalue : (e.meaning table).result = .ok value) :
    ∃ other, Derives symbol result other ∧
      (other.meaning table).result = (node.meaning (table.insert x value)).result := by
  induction hnode generalizing result with
  | @number token number hkind hnumber =>
    obtain ⟨others, rfl, hnil⟩ := h.exists_cons (by simp [hkind])
    obtain rfl := hnil.eq_nil
    exact ⟨_, .number hkind hnumber, rfl⟩
  | @identifier token hkind =>
    cases h with
    | keep hkey hnil =>
      obtain rfl := hnil.eq_nil
      have hne : x ≠ token.lexeme := by
        rintro rfl
        exact hkey (by rw [Token.key, hkind])
      refine ⟨_, .identifier hkind, ?_⟩
      rw [Node.meaning_identifier, Node.meaning_identifier, NameMap.get?_insert_of_ne _ hne]
      cases table.get? token.lexeme <;> rfl
    | replace hkey hopening hcopy hclosing hnil =>
      obtain rfl := hnil.eq_nil
      obtain rfl := (Prod.mk.inj hkey).2
      -- A group is a factor, whatever it holds, so it can stand wherever the name stood.
      obtain ⟨other, hother, hshape⟩ := hinserted.exists_of_key_eq hcopy
      refine ⟨other, .group hopening hother hclosing, ?_⟩
      rw [Node.meaning_of_shape_eq hshape hvalue, Node.meaning_identifier, NameMap.get?_insert_self]
  | group hopening _ hclosing ih =>
    obtain ⟨rest, rfl, hrest⟩ := h.exists_cons (by simp [hopening])
    obtain ⟨inner, last, rfl, hinner, hlast⟩ := hrest.exists_append
    obtain ⟨others, rfl, hnil⟩ := hlast.exists_cons (by simp [hclosing])
    obtain rfl := hnil.eq_nil
    obtain ⟨other, hother, hresult⟩ := ih hinner
    exact ⟨other, .group hopening hother hclosing, hresult⟩
  | tighter _ ih =>
    obtain ⟨other, hother, hresult⟩ := ih h
    exact ⟨other, .tighter hother, hresult⟩
  | binary hl hsign _ ihleft ihright =>
    obtain ⟨front, rest, rfl, hfront, hrest⟩ := h.exists_append
    obtain ⟨back, rfl, hback⟩ := hrest.exists_cons (by simp [hsign])
    obtain ⟨l, hleft, hleftResult⟩ := ihleft hfront
    obtain ⟨r, hright, hrightResult⟩ := ihright hback
    refine ⟨_, .binary hleft hsign hright, ?_⟩
    rw [hleft.isExpression.result_binary, hl.isExpression.result_binary, hleftResult, hrightResult]

/-- A name stands for its definition. Let a line assign an expression to a name, and let the
expression have a value on a table. Below it an expression has the same outcome as with the
definition, in parentheses, in place of the name, read alone and on the table before the assignment;
and that stores nothing. -/
theorem Program.evaluate_substituted {name sign : Token} {inserted tokens result : List Token}
    {e node : Node} {m n : Int} {table : SymbolTable} {value : Float}
    (hname : name.kind = .identifier) (hsign : sign.kind = .assign)
    (hinserted : Derives .rightExpr inserted e) (htokens : Derives .rightExpr tokens node)
    (hresult : Substituted name.lexeme inserted tokens result)
    (hfirst : ∀ token ∈ name :: sign :: inserted, token.line = m)
    (hsecond : ∀ token ∈ tokens, token.line = n) (hplaced : ∀ token ∈ result, token.line = n)
    (hne : m ≠ n) (hvalue : (e.evaluate table).result = .ok value) :
    ∃ other,
      parse (name :: sign :: (inserted ++ tokens)) =
        .ok (.ofStatements [.assignment name.lexeme e sign.location, node]) ∧
      parse result = .ok (.ofStatements [other]) ∧
      ((ofStatements [.assignment name.lexeme e sign.location, node]).evaluate table).result =
        ((ofStatements [other]).evaluate table).result.map (value :: ·) ∧
      ((ofStatements [other]).evaluate table).table = table ∧
      ((ofStatements [other]).evaluate table).log = [] := by
  rw [Node.evaluate_eq_meaning] at hvalue
  obtain ⟨other, hother, houtcome⟩ := hresult.exists_derives hinserted htokens hvalue
  refine ⟨other, ?_, ?_, ?_, ?_, ?_⟩
  · refine (parse_eq_ok_iff _ _).mpr ⟨_, ?_, rfl⟩
    have hcut : Line.ofTokens (name :: sign :: inserted ++ tokens) =
        Line.ofTokens (name :: sign :: inserted) ++ Line.ofTokens tokens := by
      apply Line.ofTokens_append
      intro a ha b hb
      rw [hfirst a (List.mem_of_getLast? ha), hsecond b (List.mem_of_head? hb)]
      exact hne
    have hassignment := Sentence.assignment hname hsign hinserted
    rw [← List.cons_append, ← List.cons_append, hcut, List.map_append,
      Line.map_statement_of_sentence hassignment hfirst,
      Line.map_statement_of_sentence (.expression htokens) hsecond]
    rfl
  · refine (parse_eq_ok_iff _ _).mpr ⟨[other], ?_, rfl⟩
    exact Line.map_statement_of_sentence (.expression hother) hplaced
  · have hassigned : (Node.assignment name.lexeme e sign.location).meaning table =
        ⟨.ok value, table.insert name.lexeme value, [.stored name.lexeme value]⟩ := by
      rw [Node.meaning_assignment, andThen_of_ok hvalue, hinserted.isExpression.table_meaning,
        hinserted.isExpression.log_meaning]
      rfl
    rw [evaluate, evaluate, ofStatements, ofStatements,
      Node.result_evaluateAll_cons (by rw [hassigned]), hassigned, Node.evaluateAll_singleton,
      Node.evaluateAll_singleton, houtcome]
  · rw [evaluate, ofStatements, Node.evaluateAll_singleton]
    exact hother.isExpression.table_meaning table
  · rw [evaluate, ofStatements, Node.evaluateAll_singleton]
    exact hother.isExpression.log_meaning table

/-- With `x > y` in place of `x` in `x * z`, the comparison is an operand of the product and reads
the former `x`. The name `z` is reported where it stood. -/
theorem Program.evaluate_substituted_comparison :
    let inserted : List Token :=
      [⟨.identifier, "x", ⟨0, 4⟩⟩, ⟨.operator .gt, ">", ⟨0, 6⟩⟩, ⟨.identifier, "y", ⟨0, 8⟩⟩]
    let tokens : List Token :=
      [⟨.identifier, "x", ⟨1, 0⟩⟩, ⟨.operator .mul, "*", ⟨1, 2⟩⟩, ⟨.identifier, "z", ⟨1, 4⟩⟩]
    let copy : List Token :=
      [⟨.identifier, "x", ⟨1, 0⟩⟩, ⟨.operator .gt, ">", ⟨1, 0⟩⟩, ⟨.identifier, "y", ⟨1, 0⟩⟩]
    let result : List Token := ⟨.leftParen, "(", ⟨1, 0⟩⟩ :: (copy ++ ⟨.rightParen, ")", ⟨1, 0⟩⟩ ::
      [⟨.operator .mul, "*", ⟨1, 2⟩⟩, ⟨.identifier, "z", ⟨1, 4⟩⟩])
    let definition : Node :=
      .binary .gt (.identifier "x" ⟨0, 4⟩) (.identifier "y" ⟨0, 8⟩) ⟨0, 6⟩
    let product : Node := .binary .mul (.identifier "x" ⟨1, 0⟩) (.identifier "z" ⟨1, 4⟩) ⟨1, 2⟩
    let table : SymbolTable := .ofList [("x", 1.0), ("y", 2.0)]
    Substituted "x" inserted tokens result ∧
    parse (⟨.identifier, "x", ⟨0, 0⟩⟩ :: ⟨.assign, "=", ⟨0, 2⟩⟩ :: (inserted ++ tokens)) =
      .ok (.ofStatements [.assignment "x" definition ⟨0, 2⟩, product]) ∧
    ((ofStatements [.assignment "x" definition ⟨0, 2⟩, product]).evaluate table).result =
      .error (.undefined "z" ⟨1, 4⟩) ∧
    ∃ other, parse result = .ok (.ofStatements [other]) ∧
      ((ofStatements [other]).evaluate table).result = .error (.undefined "z" ⟨1, 4⟩) := by
  intro inserted tokens copy result definition product table
  have hname : Token.kind ⟨.identifier, "x", ⟨0, 0⟩⟩ = .identifier := rfl
  have hsign : Token.kind ⟨.assign, "=", ⟨0, 2⟩⟩ = .assign := rfl
  have hinserted : Derives .rightExpr inserted definition :=
    @Derives.binary .gt ⟨.operator .gt, ">", ⟨0, 6⟩⟩ [_] [_] _ _
      (.tighter (.tighter (.identifier rfl))) rfl (.tighter (.tighter (.identifier rfl)))
  have htokens : Derives .rightExpr tokens product :=
    .tighter (.tighter (@Derives.binary .mul ⟨.operator .mul, "*", ⟨1, 2⟩⟩ [_] [_] _ _
      (.tighter (.identifier rfl)) rfl (.identifier rfl)))
  have hresult : Substituted "x" inserted tokens result := by
    refine .replace rfl rfl ?_ rfl (.keep ?_ (.keep ?_ .nil))
    · rfl
    · decide
    · decide
  have hfirst : ∀ token ∈ (⟨.identifier, "x", ⟨0, 0⟩⟩ : Token) :: ⟨.assign, "=", ⟨0, 2⟩⟩ :: inserted,
      token.line = 0 := by decide
  have hsecond : ∀ token ∈ tokens, token.line = 1 := by decide
  have hvalue : (definition.evaluate table).result = .ok (Operator.gt.apply 1.0 2.0) := by
    rw [Node.evaluate_eq_meaning]
    rfl
  have hundefined : ((ofStatements [.assignment "x" definition ⟨0, 2⟩, product]).evaluate table).result =
      .error (.undefined "z" ⟨1, 4⟩) := (Node.evaluateAll_eq_error_iff _ _ _).mpr rfl
  obtain ⟨other, hprogram, hother, houtcome, _⟩ := Program.evaluate_substituted hname hsign hinserted
    htokens hresult hfirst hsecond (by decide) (by decide) hvalue
  refine ⟨hresult, hprogram, hundefined, other, hother, ?_⟩
  rw [hundefined] at houtcome
  cases h : ((ofStatements [other]).evaluate table).result with
  | error e => simpa [h, Except.map, eq_comm] using houtcome
  | ok values => simp [h, Except.map] at houtcome

end Calculator
