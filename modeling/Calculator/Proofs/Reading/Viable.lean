import Calculator.Proofs.Reading.Statement

/-! # What has been read can be completed

The tokens read without a refusal are the beginning of an expression: an operand, where one is
awaited, and the missing closing parentheses complete them. Conversely the beginning of an
expression is read without a refusal. So the first token refused is the first one with which no
expression can begin.
-/
namespace Calculator

def endsOperand (kinds : List TokenKind) : Bool :=
  match kinds.getLast? with
  | some .number | some .identifier | some .rightParen => true
  | _ => false

def leavesOpen (kinds : List TokenKind) : Bool :=
  decide (kinds.count .rightParen < kinds.count .leftParen)

/-- The sequences of kinds that begin some line of the grammar. -/
def Viable (kinds : List TokenKind) : Prop :=
  ∃ rest, IsLine (kinds ++ rest)

theorem endsOperand_append {back : List TokenKind} (h : back ≠ []) (front : List TokenKind) :
    endsOperand (front ++ back) = endsOperand back := by
  simp [endsOperand, List.getLast?_eq_some_getLast h]

theorem endsOperand_assignment (kinds : List TokenKind) :
    endsOperand (.identifier :: .assign :: kinds) = endsOperand kinds := by
  cases kinds with
  | nil => rfl
  | cons kind kinds => exact endsOperand_append (List.cons_ne_nil _ _) [.identifier, .assign]

theorem leavesOpen_assignment (kinds : List TokenKind) :
    leavesOpen (.identifier :: .assign :: kinds) = leavesOpen kinds := by
  simp [leavesOpen]

theorem ne_nil_of_endsOperand {kinds : List TokenKind} (h : endsOperand kinds = true) :
    kinds ≠ [] := by
  rintro rfl
  simp [endsOperand] at h

theorem Phrase.endsOperand_eq_true {symbol : Nonterminal} {kinds : List TokenKind}
    (h : Phrase symbol kinds) : endsOperand kinds = true := by
  induction h with
  | number | identifier => rfl
  | @group inner _ _ => exact endsOperand_append (List.cons_ne_nil _ _) (.leftParen :: inner)
  | factor _ ih | term _ ih | compTerm _ ih => exact ih
  | product _ _ _ _ ih | sum _ _ _ _ ih | comparison _ _ _ _ ih =>
    have hne := ne_nil_of_endsOperand ih
    rw [← List.singleton_append, ← List.append_assoc, endsOperand_append hne]
    exact ih

theorem Phrase.count_leftParen {symbol : Nonterminal} {kinds : List TokenKind}
    (h : Phrase symbol kinds) : kinds.count .leftParen = kinds.count .rightParen := by
  induction h with
  | number | identifier => rfl
  | group _ ih => simp [ih]
  | factor _ ih | term _ ih | compTerm _ ih => exact ih
  | product _ _ _ ihleft ihright | sum _ _ _ ihleft ihright | comparison _ _ _ ihleft ihright =>
    simp [ihleft, ihright]

theorem IsLine.count_leftParen {kinds : List TokenKind} (h : IsLine kinds) :
    kinds.count .leftParen = kinds.count .rightParen := by
  cases h with
  | expression h => exact h.count_leftParen
  | assignment h => simpa using h.count_leftParen

theorem IsLine.exists_phrase {kinds rest : List TokenKind} (h : IsLine (kinds ++ rest))
    (hstarts : ¬ [.identifier, .assign] <+: kinds) : ∃ more, Phrase .rightExpr (kinds ++ more) := by
  generalize hall : kinds ++ rest = all at h
  cases h with
  | expression h => exact ⟨rest, hall ▸ h⟩
  | @assignment value h =>
    -- Only a single name or nothing at all begins both forms.
    match kinds with
    | [] => exact ⟨value, h⟩
    | [kind] =>
      obtain rfl : kind = .identifier := by simpa using congrArg List.head? hall
      exact ⟨[], .compTerm (.term (.factor .identifier))⟩
    | first :: second :: others =>
      obtain ⟨rfl, rfl, _⟩ : first = .identifier ∧ second = .assign ∧ others ++ rest = value := by
        simpa using hall
      exact absurd (List.prefix_append [_, _] others) hstarts

namespace Stacks

theorem Awaiting.endsOperand_eq_false {tokens : List Token} {state : Stacks}
    (h : Awaiting tokens state) : endsOperand (tokens.map Token.kind) = false := by
  cases h with
  | start => rfl
  | openGroup _ hkind | operator _ _ hkind _ =>
    rw [List.map_append, endsOperand_append (by simp)]
    simp [endsOperand, hkind]

theorem Awaiting.length_enclosing {tokens : List Token} {state : Stacks} (h : Awaiting tokens state) :
    state.enclosing.length + (tokens.map Token.kind).count .rightParen =
      (tokens.map Token.kind).count .leftParen := by
  induction h with
  | start => rfl
  | openGroup _ hkind ih =>
    simp [Stacks.openGroup, hkind] at ih ⊢
    omega
  | operator _ hl hkind _ ih =>
    have hcount := hl.phrase.count_leftParen
    simp [awaitRight, hkind] at ih hcount ⊢
    omega

theorem Reached.endsOperand_eq {tokens : List Token} {state : Stacks} (h : Reached tokens state) :
    endsOperand (tokens.map Token.kind) = !state.expectsOperand := by
  cases h with
  | awaiting h => rw [h.endsOperand_eq_false, h.expectsOperand, Bool.not_true]
  | complete _ hnode =>
    have hends := hnode.phrase.endsOperand_eq_true
    rw [List.map_append, endsOperand_append (ne_nil_of_endsOperand hends)]
    exact hends

theorem Reached.length_enclosing {tokens : List Token} {state : Stacks} (h : Reached tokens state) :
    state.enclosing.length + (tokens.map Token.kind).count .rightParen =
      (tokens.map Token.kind).count .leftParen := by
  cases h with
  | awaiting h => exact h.length_enclosing
  | complete h hnode =>
    have hcount := hnode.phrase.count_leftParen
    have hbefore := h.length_enclosing
    simp [push] at hbefore hcount ⊢
    omega

theorem Reached.leavesOpen_eq {tokens : List Token} {state : Stacks} (h : Reached tokens state) :
    leavesOpen (tokens.map Token.kind) = !state.enclosing.isEmpty := by
  have hlength := h.length_enclosing
  cases henclosing : state.enclosing with
  | nil =>
    rw [henclosing] at hlength
    simp [leavesOpen, ← hlength]
  | cons compared enclosing =>
    rw [henclosing] at hlength
    simp [leavesOpen, ← hlength]

/-- With an operand for what is pending, closing parentheses complete an expression. -/
theorem Awaiting.exists_closing {tokens : List Token} {state : Stacks} (h : Awaiting tokens state)
    {symbol : Nonterminal} {operand : List Token} {node : Node} (hnode : Derives symbol operand node)
    (hbound : bound state.pending ≤ symbol.level) :
    ∃ closing tree, Derives .rightExpr (tokens ++ operand ++ closing) tree := by
  induction h generalizing symbol operand node with
  | start => exact ⟨[], node, by simpa using hnode.loosen .rightExpr (Nat.zero_le _)⟩
  | @openGroup tokens state opening _ hkind ih =>
    have hgroup : Derives .factor (opening :: (operand ++ [⟨.rightParen, ")", .origin⟩])) node :=
      .group hkind (hnode.loosen .rightExpr (Nat.zero_le _)) rfl
    obtain ⟨closing, tree, htree⟩ := ih hgroup (bound_le _)
    exact ⟨⟨.rightParen, ")", .origin⟩ :: closing, tree, by simpa using htree⟩
  | @operator tokens left state l op sign _ hl hsign hop ih =>
    have hr : Derives op.rightSide operand node := by
      apply hnode.loosen
      rw [op.level_rightSide]
      exact hbound
    obtain ⟨closing, tree, htree⟩ := ih (.binary hl hsign hr) (by simpa using hop)
    exact ⟨closing, tree, by simpa using htree⟩

theorem Reached.exists_phrase {tokens : List Token} {state : Stacks} (h : Reached tokens state) :
    ∃ rest, Phrase .rightExpr (tokens.map Token.kind ++ rest) := by
  obtain ⟨more, tree, htree⟩ : ∃ more tree, Derives .rightExpr (tokens ++ more) tree := by
    cases h with
    | awaiting h =>
      have hname : Derives .factor [⟨.identifier, "x", .origin⟩] (.identifier "x" .origin) :=
        .identifier rfl
      obtain ⟨closing, tree, htree⟩ := h.exists_closing hname (bound_le _)
      rw [List.append_assoc] at htree
      exact ⟨_, tree, htree⟩
    | complete h hnode =>
      obtain ⟨closing, tree, htree⟩ := h.exists_closing hnode (bound_le _)
      exact ⟨closing, tree, htree⟩
  have hphrase := htree.phrase
  rw [List.map_append] at hphrase
  exact ⟨more.map Token.kind, hphrase⟩

theorem exists_readAll_of_phrase {tokens : List Token}
    (hreadable : ∀ token ∈ tokens, token.Readable) {rest : List TokenKind}
    (h : Phrase .rightExpr (tokens.map Token.kind ++ rest)) :
    ∃ state, start.readAll tokens = .ok state := by
  let more : List Token := rest.map fun kind => ⟨kind, "0", .origin⟩
  have hmap : (tokens ++ more).map Token.kind = tokens.map Token.kind ++ rest := by
    simp [more, Function.comp_def]
  have hzero : "0".toList.all isNumeral = true ∧ Literal.isWellFormed "0".toList = true := by
    decide
  have hall : ∀ token ∈ tokens ++ more, token.Readable := by
    intro token htoken
    rcases List.mem_append.mp htoken with htoken | htoken
    · exact hreadable token htoken
    · obtain ⟨kind, _, rfl⟩ := List.mem_map.mp htoken
      exact fun _ => hzero
  obtain ⟨node, hnode⟩ := h.exists_derives _ hmap hall
  obtain ⟨next, hnext, _⟩ := exists_readAll_of_derives hnode start rfl (by simp [start])
    (fun _ => rfl)
  rw [readAll_append] at hnext
  cases hread : start.readAll tokens with
  | ok state => exact ⟨state, rfl⟩
  | error failure => simp [hread] at hnext

theorem exists_readAll_iff {tokens : List Token} (hreadable : ∀ token ∈ tokens, token.Readable) :
    (∃ state, start.readAll tokens = .ok state) ↔
      ∃ rest, Phrase .rightExpr (tokens.map Token.kind ++ rest) := by
  constructor
  · rintro ⟨state, hstate⟩
    exact ((Reached.awaiting .start).readAll hreadable hstate).exists_phrase
  · rintro ⟨rest, hrest⟩
    exact exists_readAll_of_phrase hreadable hrest

end Stacks

end Calculator
