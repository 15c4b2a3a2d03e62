import Mathlib.Logic.Relation
import Calculator.Proofs.Program.Lines

/-! # Parentheses around a subtree change nothing

Each node of an expression is made from tokens that stand together. They can be exchanged for any
others that are a factor with the same tree, in particular for themselves in parentheses, and this
can be repeated.
-/
namespace Calculator

def Node.follow? : Node → List Nat → Option Node
  | node, [] => some node
  | node, i :: path => node.children[i]?.bind fun child => child.follow? path

theorem Node.follow?_binary_cons {op : Operator} {l r node : Node} {location : Location} {i : Nat}
    {path : List Nat} (h : (Node.binary op l r location).follow? (i :: path) = some node) :
    (i = 0 ∧ l.follow? path = some node) ∨ (i = 1 ∧ r.follow? path = some node) := by
  rcases i with _ | _ | i
  · exact Or.inl ⟨rfl, h⟩
  · exact Or.inr ⟨rfl, h⟩
  · simp [follow?, children] at h

/-- The expression of a statement: what stands to the right of the assignment sign, if there is one. -/
def Node.rightHand : Node → Node
  | .assignment _ value _ => value
  | node => node

/-- The tokens in the middle are those that the node at a path is made from, in a derivation of the
tokens before them, of themselves and of those behind them. A node that already stands in parentheses
is made from what they hold, and also from that together with any pairs around it. -/
inductive Spans : Nonterminal → List Token → List Token → List Token → Node → List Nat → Prop where
  | here {symbol : Nonterminal} {tokens : List Token} {node : Node} : Derives symbol tokens node →
      Spans symbol [] tokens [] node []
  | group {opening closing : Token} {front span back : List Token} {tree : Node} {path : List Nat} :
      opening.kind = .leftParen → Spans .rightExpr front span back tree path →
      closing.kind = .rightParen → Spans .factor (opening :: front) span (back ++ [closing]) tree path
  | tighter {symbol : Nonterminal} {front span back : List Token} {tree : Node} {path : List Nat} :
      Spans symbol.tighter front span back tree path → Spans symbol front span back tree path
  | left {op : Operator} {sign : Token} {front span back right : List Token} {l r : Node}
      {path : List Nat} : Spans op.leftSide front span back l path → sign.kind = .operator op →
      Derives op.rightSide right r → Spans op.result front span (back ++ sign :: right)
        (.binary op l r sign.location) (0 :: path)
  | right {op : Operator} {sign : Token} {left front span back : List Token} {l r : Node}
      {path : List Nat} : Derives op.leftSide left l → sign.kind = .operator op →
      Spans op.rightSide front span back r path → Spans op.result (left ++ sign :: front) span back
        (.binary op l r sign.location) (1 :: path)

section Spans

variable {symbol : Nonterminal} {tokens front span back : List Token} {tree node : Node}
  {path : List Nat}

/-- Every node of an expression is made from some of its tokens. -/
theorem Derives.exists_spans (h : Derives symbol tokens tree) (hpath : tree.follow? path = some node) :
    ∃ front span back, front ++ span ++ back = tokens ∧ Spans symbol front span back tree path := by
  induction h generalizing path with
  | @number token value hkind hvalue =>
    cases path with
    | nil => exact ⟨[], [token], [], rfl, .here (.number hkind hvalue)⟩
    | cons i path => simp [Node.follow?, Node.children] at hpath
  | @identifier token hkind =>
    cases path with
    | nil => exact ⟨[], [token], [], rfl, .here (.identifier hkind)⟩
    | cons i path => simp [Node.follow?, Node.children] at hpath
  | @group opening closing inner _ hopening _ hclosing ih =>
    obtain ⟨front, span, back, rfl, hspans⟩ := ih hpath
    exact ⟨opening :: front, span, back ++ [closing], by simp, .group hopening hspans hclosing⟩
  | tighter _ ih =>
    obtain ⟨front, span, back, heq, hspans⟩ := ih hpath
    exact ⟨front, span, back, heq, .tighter hspans⟩
  | @binary op sign left right l r hl hsign hr ihleft ihright =>
    cases path with
    | nil => exact ⟨[], left ++ sign :: right, [], by simp, .here (.binary hl hsign hr)⟩
    | cons i path =>
      rcases Node.follow?_binary_cons hpath with ⟨rfl, hbelow⟩ | ⟨rfl, hbelow⟩
      · obtain ⟨front, span, back, rfl, hspans⟩ := ihleft hbelow
        exact ⟨front, span, back ++ sign :: right, by simp, .left hspans hsign hr⟩
      · obtain ⟨front, span, back, rfl, hspans⟩ := ihright hbelow
        exact ⟨left ++ sign :: front, span, back, by simp, .right hl hsign hspans⟩

theorem Spans.exists_node (h : Spans symbol front span back tree path) :
    ∃ node, tree.follow? path = some node ∧ Derives .rightExpr span node := by
  induction h with
  | here h => exact ⟨_, rfl, h.loosen .rightExpr (Nat.zero_le _)⟩
  | group _ _ _ ih | tighter _ ih | left _ _ _ ih | right _ _ _ ih => exact ih

theorem Spans.derives (h : Spans symbol front span back tree path) :
    Derives symbol (front ++ span ++ back) tree := by
  induction h with
  | here h => simpa using h
  | group hopening _ hclosing ih => simpa using Derives.group hopening ih hclosing
  | tighter _ ih => exact .tighter ih
  | left _ hsign hright ih => simpa using Derives.binary ih hsign hright
  | right hleft hsign _ ih => simpa using Derives.binary hleft hsign ih

/-- The tokens of a node can be exchanged for others that are a factor with the same tree. -/
theorem Spans.exchange (h : Spans symbol front span back tree path)
    (hnode : tree.follow? path = some node) {other : List Token} (hother : Derives .factor other node) :
    Derives symbol (front ++ other ++ back) tree := by
  induction h with
  | here h =>
    -- A factor may stand wherever any other symbol may.
    obtain rfl := Option.some.inj hnode
    simpa using hother.loosen _ (Nonterminal.level_le _)
  | group hopening _ hclosing ih => simpa using Derives.group hopening (ih hnode) hclosing
  | tighter _ ih => exact .tighter (ih hnode)
  | left _ hsign hright ih => simpa using Derives.binary (ih hnode) hsign hright
  | right hleft hsign _ ih => simpa using Derives.binary hleft hsign (ih hnode)

theorem Spans.parenthesized (h : Spans symbol front span back tree path) {opening closing : Token}
    (hopening : opening.kind = .leftParen) (hclosing : closing.kind = .rightParen) :
    Derives symbol (front ++ opening :: (span ++ closing :: back)) tree := by
  obtain ⟨node, hnode, hspan⟩ := h.exists_node
  simpa using h.exchange hnode (.group hopening hspan hclosing)

end Spans

/-- The tokens in the middle are those that a node of the expression of a statement is made from. -/
inductive SentenceSpans : List Token → List Token → List Token → Node → List Nat → Prop where
  | expression {front span back : List Token} {tree : Node} {path : List Nat} :
      Spans .rightExpr front span back tree path → SentenceSpans front span back tree path
  | assignment {name sign : Token} {front span back : List Token} {value : Node} {path : List Nat} :
      name.kind = .identifier → sign.kind = .assign → Spans .rightExpr front span back value path →
      SentenceSpans (name :: sign :: front) span back
        (.assignment name.lexeme value sign.location) path

/-- One pair of parentheses is put around the tokens of a node, on line `n`. -/
inductive Parenthesizes (statement : Node) (n : Int) : List Token → List Token → Prop where
  | around {front span back : List Token} {path : List Nat} {opening closing : Token} :
      SentenceSpans front span back statement path →
      opening.kind = .leftParen → opening.line = n → closing.kind = .rightParen → closing.line = n →
      Parenthesizes statement n (front ++ span ++ back)
        (front ++ opening :: (span ++ closing :: back))

theorem Node.IsExpression.rightHand_eq {node : Node} (h : node.IsExpression) :
    node.rightHand = node := by
  cases h <;> rfl

section SentenceSpans

variable {tokens more front span back : List Token} {statement node : Node} {path : List Nat}

theorem Sentence.exists_spans (h : Sentence tokens statement)
    (hpath : statement.rightHand.follow? path = some node) :
    ∃ front span back, front ++ span ++ back = tokens ∧
      SentenceSpans front span back statement path := by
  cases h with
  | expression h =>
    rw [h.isExpression.rightHand_eq] at hpath
    obtain ⟨front, span, back, heq, hspans⟩ := h.exists_spans hpath
    exact ⟨front, span, back, heq, .expression hspans⟩
  | @assignment name sign _ _ hname hsign h =>
    obtain ⟨front, span, back, rfl, hspans⟩ := h.exists_spans hpath
    exact ⟨name :: sign :: front, span, back, rfl, .assignment hname hsign hspans⟩

theorem SentenceSpans.exists_node (h : SentenceSpans front span back statement path) :
    ∃ node, statement.rightHand.follow? path = some node ∧ Derives .rightExpr span node := by
  cases h with
  | expression h =>
    rw [h.derives.isExpression.rightHand_eq]
    exact h.exists_node
  | assignment _ _ h => exact h.exists_node

theorem SentenceSpans.parenthesized (h : SentenceSpans front span back statement path)
    {opening closing : Token} (hopening : opening.kind = .leftParen)
    (hclosing : closing.kind = .rightParen) :
    Sentence (front ++ opening :: (span ++ closing :: back)) statement := by
  cases h with
  | expression h => exact .expression (h.parenthesized hopening hclosing)
  | assignment hname hsign h => exact .assignment hname hsign (h.parenthesized hopening hclosing)

theorem Parenthesizes.sentence {n : Int} (h : Parenthesizes statement n tokens more)
    (hline : ∀ token ∈ tokens, token.line = n) :
    Sentence more statement ∧ ∀ token ∈ more, token.line = n := by
  cases h with
  | around hspans hopening hopeningLine hclosing hclosingLine =>
    refine ⟨hspans.parenthesized hopening hclosing, ?_⟩
    simp only [List.forall_mem_append, List.forall_mem_cons] at hline ⊢
    exact ⟨hline.1.1, hopeningLine, hline.1.2, hclosingLine, hline.2⟩

theorem Sentence.of_parenthesizes {n : Int} (h : Sentence tokens statement)
    (hline : ∀ token ∈ tokens, token.line = n)
    (hmore : Relation.ReflTransGen (Parenthesizes statement n) tokens more) :
    Sentence more statement ∧ ∀ token ∈ more, token.line = n := by
  induction hmore with
  | refl => exact ⟨h, hline⟩
  | tail _ hstep ih => exact hstep.sentence ih.2

end SentenceSpans

/-- Parentheses around a subtree change nothing. Where a line is a statement, each node of its
expression is made from tokens that stand together and are that node by themselves. With one
parenthesis before these tokens and one behind them the line is the same statement, with the same
places, and so it is after any number of such steps, each on the line that the others have left. -/
theorem parse_parenthesized {tokens : List Token} {n : Int}
    (hline : ∀ token ∈ tokens, token.line = n) {statement : Node}
    (hparse : parse tokens = .ok (.ofStatements [statement])) :
    (∀ path node, statement.rightHand.follow? path = some node →
      ∃ front span back, front ++ span ++ back = tokens ∧
        SentenceSpans front span back statement path) ∧
    (∀ path front span back, SentenceSpans front span back statement path →
      front ++ span ++ back = tokens →
      (∃ node, statement.rightHand.follow? path = some node ∧
        ∀ lineEnd, expression span lineEnd = .ok node) ∧
      ∀ opening closing : Token, opening.kind = .leftParen → opening.line = n →
        closing.kind = .rightParen → closing.line = n →
        parse (front ++ opening :: (span ++ closing :: back)) = .ok (.ofStatements [statement])) ∧
    ∀ more, Relation.ReflTransGen (Parenthesizes statement n) tokens more →
      parse more = .ok (.ofStatements [statement]) := by
  have hsentence := (parse_eq_ok_iff_sentence hline statement).mp hparse
  have hrepeated : ∀ more, Relation.ReflTransGen (Parenthesizes statement n) tokens more →
      parse more = .ok (.ofStatements [statement]) := by
    intro more hmore
    obtain ⟨hmoreSentence, hmoreLine⟩ := hsentence.of_parenthesizes hline hmore
    exact (parse_eq_ok_iff_sentence hmoreLine statement).mpr hmoreSentence
  refine ⟨fun path node hpath => hsentence.exists_spans hpath, ?_, hrepeated⟩
  rintro path front span back hspans rfl
  constructor
  · obtain ⟨node, hnode, hderives⟩ := hspans.exists_node
    exact ⟨node, hnode, Stacks.expression_of_derives hderives⟩
  · intro opening closing hopening hopeningLine hclosing hclosingLine
    exact hrepeated _ (.single (.around hspans hopening hopeningLine hclosing hclosingLine))

/-- In `x = a - b > c` parentheses are put around the left operand of the comparison, and then around
the `b` in it. -/
theorem parse_parenthesized_comparison :
    parse [⟨.identifier, "x", ⟨3, 0⟩⟩, ⟨.assign, "=", ⟨3, 2⟩⟩, ⟨.leftParen, "(", ⟨3, 40⟩⟩,
        ⟨.identifier, "a", ⟨3, 4⟩⟩, ⟨.operator .sub, "-", ⟨3, 6⟩⟩, ⟨.leftParen, "(", ⟨3, 41⟩⟩,
        ⟨.identifier, "b", ⟨3, 8⟩⟩, ⟨.rightParen, ")", ⟨3, 42⟩⟩, ⟨.rightParen, ")", ⟨3, 43⟩⟩,
        ⟨.operator .gt, ">", ⟨3, 10⟩⟩, ⟨.identifier, "c", ⟨3, 12⟩⟩] =
      .ok (.ofStatements [.assignment "x" (.binary .gt (.binary .sub (.identifier "a" ⟨3, 4⟩)
        (.identifier "b" ⟨3, 8⟩) ⟨3, 6⟩) (.identifier "c" ⟨3, 12⟩) ⟨3, 10⟩) ⟨3, 2⟩]) := by
  have ha : Derives .compTerm [⟨.identifier, "a", ⟨3, 4⟩⟩] (.identifier "a" ⟨3, 4⟩) :=
    .tighter (.tighter (.identifier rfl))
  have hb : Derives .term [⟨.identifier, "b", ⟨3, 8⟩⟩] (.identifier "b" ⟨3, 8⟩) :=
    .tighter (.identifier rfl)
  have hc : Derives .compTerm [⟨.identifier, "c", ⟨3, 12⟩⟩] (.identifier "c" ⟨3, 12⟩) :=
    .tighter (.tighter (.identifier rfl))
  have hdifference := @Derives.binary .sub ⟨.operator .sub, "-", ⟨3, 6⟩⟩ _ _ _ _ ha rfl hb
  have houter := @SentenceSpans.assignment ⟨.identifier, "x", ⟨3, 0⟩⟩ ⟨.assign, "=", ⟨3, 2⟩⟩ _ _ _ _ _
    rfl rfl (@Spans.left .gt ⟨.operator .gt, ">", ⟨3, 10⟩⟩ _ _ _ _ _ _ _ (.here hdifference) rfl hc)
  have hsubtrahend := @Spans.right .sub ⟨.operator .sub, "-", ⟨3, 6⟩⟩ _ _ _ _ _ _ _ ha rfl (.here hb)
  have hgroup := @Spans.group ⟨.leftParen, "(", ⟨3, 40⟩⟩ ⟨.rightParen, ")", ⟨3, 43⟩⟩ _ _ _ _ _ rfl
    (.tighter hsubtrahend) rfl
  have hinner := @SentenceSpans.assignment ⟨.identifier, "x", ⟨3, 0⟩⟩ ⟨.assign, "=", ⟨3, 2⟩⟩ _ _ _ _ _
    rfl rfl (@Spans.left .gt ⟨.operator .gt, ">", ⟨3, 10⟩⟩ _ _ _ _ _ _ _ (.tighter (.tighter hgroup))
      rfl hc)
  have hfirst := @Parenthesizes.around _ 3 _ _ _ _ ⟨.leftParen, "(", ⟨3, 40⟩⟩
    ⟨.rightParen, ")", ⟨3, 43⟩⟩ houter rfl rfl rfl rfl
  have hsecond := @Parenthesizes.around _ 3 _ _ _ _ ⟨.leftParen, "(", ⟨3, 41⟩⟩
    ⟨.rightParen, ")", ⟨3, 42⟩⟩ hinner rfl rfl rfl rfl
  exact (parse_parenthesized (by decide) rfl).2.2 _ (.tail (.single hfirst) hsecond)

end Calculator
