import Calculator.Proofs.Reading.Invariant

/-! # A line is read exactly when it is in the grammar

The stacks accept the sentences of the grammar and nothing else, and they build the tree of the
derivation. Which of the two forms a line has is told by the kinds of its first two tokens.
-/
namespace Calculator
open Stacks

theorem Stacks.readable_of_read {state next : Stacks} {token : Token}
    (h : state.read token = .ok next) : token.Readable := by
  by_cases hkind : token.kind = .number
  · cases hexpects : state.expectsOperand with
    | true =>
      cases hvalue : Literal.value? token.lexeme with
      | some value => exact .of_value hvalue
      | none => simp [read, readOperand, hexpects, hkind, hvalue] at h
    | false => simp [read, readOperator, hexpects, hkind] at h
  · exact .of_kind_ne hkind

theorem Stacks.readable_of_readAll {state next : Stacks} {tokens : List Token}
    (h : state.readAll tokens = .ok next) : ∀ token ∈ tokens, token.Readable := by
  induction tokens generalizing state with
  | nil => simp
  | cons token rest ih =>
    cases hread : state.read token with
    | error failure => simp [readAll, hread] at h
    | ok middle =>
      rw [readAll_cons_of_eq hread] at h
      rw [List.forall_mem_cons]
      exact ⟨readable_of_read hread, ih h⟩

theorem readable_of_expression {tokens : List Token} {lineEnd : Location} {node : Node}
    (h : expression tokens lineEnd = .ok node) : ∀ token ∈ tokens, token.Readable := by
  cases hread : start.readAll tokens with
  | error failure => simp [expression, hread] at h
  | ok state => exact readable_of_readAll hread

theorem expression_eq_ok_iff {tokens : List Token} (hreadable : ∀ token ∈ tokens, token.Readable)
    (lineEnd : Location) (node : Node) :
    expression tokens lineEnd = .ok node ↔ Derives .rightExpr tokens node := by
  constructor
  · intro h
    unfold expression at h
    cases hread : start.readAll tokens with
    | error failure => simp [hread] at h
    | ok state =>
      have hreached : Reached tokens state := (Reached.awaiting .start).readAll hreadable hread
      rw [hread] at h
      exact hreached.derives_of_finish h
  · intro h
    exact expression_of_derives h lineEnd

namespace Line

def StartsAssignment (line : Line) : Prop :=
  [.identifier, .assign] <+: line.tokens.map Token.kind

theorem startsAssignment_iff (line : Line) : line.StartsAssignment ↔
    ∃ name sign tokens, line = ⟨name, sign :: tokens⟩ ∧ name.kind = .identifier ∧
      sign.kind = .assign := by
  obtain ⟨name, rest⟩ := line
  constructor
  · intro h
    cases rest with
    | nil => simp [StartsAssignment, tokens] at h
    | cons sign tokens =>
      simp only [StartsAssignment, Line.tokens, List.map_cons, List.cons_prefix_cons,
        List.nil_prefix, and_true] at h
      exact ⟨name, sign, tokens, rfl, h.1.symm, h.2.symm⟩
  · rintro ⟨name, sign, tokens, hline, hname, hsign⟩
    obtain ⟨rfl, rfl⟩ := Line.mk.inj hline
    simp [StartsAssignment, Line.tokens, hname, hsign]

theorem statement_assignment {name sign : Token} (hname : name.kind = .identifier)
    (hsign : sign.kind = .assign) (tokens : List Token) :
    statement ⟨name, sign :: tokens⟩ =
      match expression tokens (Line.mk name (sign :: tokens)).endLocation with
      | .ok value => .ok (.assignment name.lexeme value sign.location)
      | .error failure => .error failure := by
  obtain ⟨kind, lexeme, location⟩ := name
  obtain ⟨signKind, signLexeme, signLocation⟩ := sign
  obtain rfl : kind = .identifier := hname
  obtain rfl : signKind = .assign := hsign
  rfl

theorem statement_expression {line : Line} (h : ¬ line.StartsAssignment) :
    line.statement = expression line.tokens line.endLocation := by
  unfold statement
  split
  · next lexeme location signLexeme signLocation tokens hfirst hrest =>
    exact absurd (line.startsAssignment_iff.mpr ⟨line.first, _, tokens, by rw [← hrest],
      by rw [hfirst], rfl⟩) h
  · rfl

theorem not_derives_of_startsAssignment {line : Line} (h : line.StartsAssignment)
    (symbol : Nonterminal) (node : Node) : ¬ Derives symbol line.tokens node := by
  intro hderives
  apply hderives.phrase.assign_notMem
  exact h.subset (by simp)

theorem statement_eq_ok_iff_sentence (line : Line)
    (hreadable : ∀ token ∈ line.tokens, token.Readable) (node : Node) :
    line.statement = .ok node ↔ Sentence line.tokens node := by
  by_cases hstarts : line.StartsAssignment
  · obtain ⟨name, sign, tokens, rfl, hname, hsign⟩ := line.startsAssignment_iff.mp hstarts
    have htokens : ∀ token ∈ tokens, token.Readable := by
      intro token htoken
      exact hreadable token (List.mem_cons_of_mem _ (List.mem_cons_of_mem _ htoken))
    have hiff := expression_eq_ok_iff htokens (Line.mk name (sign :: tokens)).endLocation
    rw [statement_assignment hname hsign]
    constructor
    · intro h
      split at h
      · next value hvalue =>
        cases h
        exact .assignment hname hsign ((hiff value).mp hvalue)
      · cases h
    · intro h
      change Sentence (name :: sign :: tokens) node at h
      cases h with
      | expression h => exact absurd h (not_derives_of_startsAssignment hstarts _ _)
      | assignment _ _ h => rw [(hiff _).mpr h]
  · rw [statement_expression hstarts, expression_eq_ok_iff hreadable]
    constructor
    · exact .expression
    · intro h
      obtain ⟨first, rest⟩ := line
      change Sentence (first :: rest) node at h
      cases h with
      | expression h => exact h
      | assignment hname hsign _ =>
        exact absurd ((startsAssignment_iff _).mpr ⟨_, _, _, rfl, hname, hsign⟩) hstarts

theorem readable_of_statement {line : Line} {node : Node} (h : line.statement = .ok node) :
    ∀ token ∈ line.tokens, token.Readable := by
  by_cases hstarts : line.StartsAssignment
  · obtain ⟨name, sign, tokens, rfl, hname, hsign⟩ := line.startsAssignment_iff.mp hstarts
    rw [statement_assignment hname hsign] at h
    split at h
    · next value hvalue =>
      have htokens := readable_of_expression hvalue
      rw [Line.tokens, List.forall_mem_cons, List.forall_mem_cons]
      exact ⟨.of_kind_ne (by simp [hname]), .of_kind_ne (by simp [hsign]), htokens⟩
    · cases h
  · rw [statement_expression hstarts] at h
    exact readable_of_expression h

theorem sentence_of_statement {line : Line} {node : Node} (h : line.statement = .ok node) :
    Sentence line.tokens node :=
  (line.statement_eq_ok_iff_sentence (readable_of_statement h) node).mp h

/-- An assignment is made only of a line that begins like one, and only at its root. -/
theorem form_of_sentence {line : Line} {node : Node} (h : Sentence line.tokens node) :
    (¬ line.StartsAssignment ∧ node.IsExpression) ∨
    ∃ name sign tokens value, line = ⟨name, sign :: tokens⟩ ∧ name.kind = .identifier ∧
      sign.kind = .assign ∧ value.IsExpression ∧
      node = .assignment name.lexeme value sign.location := by
  obtain ⟨first, rest⟩ := line
  change Sentence (first :: rest) node at h
  cases h with
  | expression h =>
    exact Or.inl ⟨fun hstarts => not_derives_of_startsAssignment hstarts _ _ h, h.isExpression⟩
  | assignment hname hsign h =>
    exact Or.inr ⟨_, _, _, _, rfl, hname, hsign, h.isExpression, rfl⟩

/-- A line is read exactly when its kinds are a line of the grammar. Its statement is the tree of
the derivation, and an assignment exactly when the line begins like one. -/
theorem statement_follows_grammar (line : Line)
    (hreadable : ∀ token ∈ line.tokens, token.Readable) :
    ((∃ node, line.statement = .ok node) ↔ IsLine (line.tokens.map Token.kind)) ∧
    (∀ node, line.statement = .ok node ↔ Sentence line.tokens node) ∧
    (∀ node, line.statement = .ok node →
      (¬ line.StartsAssignment ∧ node.IsExpression) ∨
      ∃ name sign tokens value, line = ⟨name, sign :: tokens⟩ ∧ name.kind = .identifier ∧
        sign.kind = .assign ∧ value.IsExpression ∧
        node = .assignment name.lexeme value sign.location) := by
  have hsentence := line.statement_eq_ok_iff_sentence hreadable
  refine ⟨?_, hsentence, ?_⟩
  · rw [← exists_sentence_iff hreadable]
    exact exists_congr hsentence
  · intro node hnode
    exact form_of_sentence ((hsentence node).mp hnode)

def productOfSum : Line where
  first := ⟨.identifier, "x", ⟨0, 0⟩⟩
  rest :=
    [⟨.assign, "=", ⟨0, 2⟩⟩, ⟨.leftParen, "(", ⟨0, 4⟩⟩, ⟨.identifier, "a", ⟨0, 5⟩⟩,
      ⟨.operator .add, "+", ⟨0, 7⟩⟩, ⟨.number, "2", ⟨0, 9⟩⟩, ⟨.rightParen, ")", ⟨0, 10⟩⟩,
      ⟨.operator .mul, "*", ⟨0, 12⟩⟩, ⟨.identifier, "b", ⟨0, 14⟩⟩]

theorem statement_productOfSum :
    (∀ token ∈ productOfSum.tokens, token.Readable) ∧
    ∃ two, Literal.value? "2" = some two ∧ productOfSum.statement =
      .ok (.assignment "x" (.binary .mul (.binary .add (.identifier "a" ⟨0, 5⟩)
        (.number two ⟨0, 9⟩) ⟨0, 7⟩) (.identifier "b" ⟨0, 14⟩) ⟨0, 12⟩) ⟨0, 2⟩) := by
  have hreadable : ∀ token ∈ productOfSum.tokens, token.Readable := by
    simp only [tokens, productOfSum, List.forall_mem_cons, Token.Readable]
    decide
  have hnumber : Token.Readable ⟨.number, "2", ⟨0, 9⟩⟩ := hreadable _ (by decide)
  obtain ⟨two, htwo⟩ := hnumber.exists_value rfl
  have ha : Derives .compTerm [⟨.identifier, "a", ⟨0, 5⟩⟩] (.identifier "a" ⟨0, 5⟩) :=
    .tighter (.tighter (.identifier rfl))
  have hsecond : Derives .term [⟨.number, "2", ⟨0, 9⟩⟩] (.number two ⟨0, 9⟩) :=
    .tighter (.number rfl htwo)
  have hb : Derives .factor [⟨.identifier, "b", ⟨0, 14⟩⟩] (.identifier "b" ⟨0, 14⟩) :=
    .identifier rfl
  have hsum := @Derives.binary .add ⟨.operator .add, "+", ⟨0, 7⟩⟩ _ _ _ _ ha rfl hsecond
  have hgroup := @Derives.group ⟨.leftParen, "(", ⟨0, 4⟩⟩ ⟨.rightParen, ")", ⟨0, 10⟩⟩ _ _ rfl
    (.tighter hsum) rfl
  have hproduct := @Derives.binary .mul ⟨.operator .mul, "*", ⟨0, 12⟩⟩ _ _ _ _ (.tighter hgroup) rfl
    hb
  refine ⟨hreadable, two, htwo, ?_⟩
  apply ((statement_follows_grammar productOfSum hreadable).2.1 _).mpr
  exact .assignment rfl rfl (hproduct.loosen .rightExpr (Nat.zero_le _))

end Line

end Calculator
