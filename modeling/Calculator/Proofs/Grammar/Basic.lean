import Calculator.Line.Statement

/-! # The grammar of a line

`Phrase` is the grammar of expressions over kinds of tokens, one rule for each alternative; a level
with a star is written in its left-recursive form, which is the one that groups to the left.
`Derives` has the same rules over tokens and adds the tree that a derivation stands for. The two are
shown to agree on tokens whose numbers can be read.
-/
namespace Calculator

/-- The symbols of the grammar of expressions, from the tightest to the loosest. -/
inductive Nonterminal where
  | factor | term | compTerm | rightExpr

/-- The sequences of kinds that each symbol derives. -/
inductive Phrase : Nonterminal → List TokenKind → Prop where
  | number : Phrase .factor [.number]
  | identifier : Phrase .factor [.identifier]
  | group {inner : List TokenKind} : Phrase .rightExpr inner →
      Phrase .factor (.leftParen :: (inner ++ [.rightParen]))
  | factor {kinds : List TokenKind} : Phrase .factor kinds → Phrase .term kinds
  | product {left right : List TokenKind} {op : Operator} : Phrase .term left →
      op ∈ [Operator.mul, .div] → Phrase .factor right → Phrase .term (left ++ .operator op :: right)
  | term {kinds : List TokenKind} : Phrase .term kinds → Phrase .compTerm kinds
  | sum {left right : List TokenKind} {op : Operator} : Phrase .compTerm left →
      op ∈ [Operator.add, .sub] → Phrase .term right →
      Phrase .compTerm (left ++ .operator op :: right)
  | compTerm {kinds : List TokenKind} : Phrase .compTerm kinds → Phrase .rightExpr kinds
  | comparison {left right : List TokenKind} {op : Operator} : Phrase .compTerm left →
      op ∈ [Operator.gt, .ge, .lt, .le, .eq] → Phrase .compTerm right →
      Phrase .rightExpr (left ++ .operator op :: right)

/-- The sequences of kinds that make a line: an expression, or a name, an assignment sign and an
expression. -/
inductive IsLine : List TokenKind → Prop where
  | expression {kinds : List TokenKind} : Phrase .rightExpr kinds → IsLine kinds
  | assignment {kinds : List TokenKind} : Phrase .rightExpr kinds →
      IsLine (.identifier :: .assign :: kinds)

namespace Nonterminal

def tighter : Nonterminal → Nonterminal
  | rightExpr => compTerm
  | compTerm => term
  | term | factor => factor

/-- How tight the loosest operator binds that a phrase may have outside of parentheses. -/
def level : Nonterminal → Nat
  | rightExpr => 0
  | compTerm => 1
  | term => 2
  | factor => 3

theorem level_tighter {symbol : Nonterminal} (h : symbol.level < 3) :
    symbol.tighter.level = symbol.level + 1 := by
  cases symbol <;> simp_all [level, tighter]

theorem level_le_tighter (symbol : Nonterminal) : symbol.level ≤ symbol.tighter.level := by
  cases symbol <;> decide

theorem level_le (symbol : Nonterminal) : symbol.level ≤ 3 := by
  cases symbol <;> simp [level]

theorem eq_of_level_eq {symbol other : Nonterminal} (h : symbol.level = other.level) :
    symbol = other := by
  cases symbol <;> cases other <;> simp_all [level]

end Nonterminal

namespace Operator

def result : Operator → Nonterminal
  | mul | div => .term
  | add | sub => .compTerm
  | gt | ge | lt | le | eq => .rightExpr

def leftSide : Operator → Nonterminal
  | mul | div => .term
  | add | sub | gt | ge | lt | le | eq => .compTerm

def rightSide : Operator → Nonterminal
  | mul | div => .factor
  | add | sub => .term
  | gt | ge | lt | le | eq => .compTerm

@[simp] theorem level_result (op : Operator) : op.result.level = op.precedence := by
  cases op <;> rfl

@[simp] theorem level_rightSide (op : Operator) : op.rightSide.level = op.precedence + 1 := by
  cases op <;> rfl

theorem precedence_le_level_leftSide (op : Operator) : op.precedence ≤ op.leftSide.level := by
  cases op <;> decide

theorem level_leftSide_pos (op : Operator) : 0 < op.leftSide.level := by
  cases op <;> decide

theorem level_leftSide_le (op : Operator) : op.leftSide.level ≤ max 1 op.precedence := by
  cases op <;> decide

theorem precedence_le (op : Operator) : op.precedence ≤ 2 := by
  cases op <;> decide

theorem isChainable_iff (op : Operator) : op.isChainable = true ↔ 0 < op.precedence := by
  cases op <;> decide

end Operator

/-- Tokens that a symbol derives, and the tree of the derivation. A group is represented by what it
holds, an operation is placed at its operator and a leaf at its own token. -/
inductive Derives : Nonterminal → List Token → Node → Prop where
  | number {token : Token} {value : Float} : token.kind = .number →
      Literal.value? token.lexeme = some value →
      Derives .factor [token] (.number value token.location)
  | identifier {token : Token} : token.kind = .identifier →
      Derives .factor [token] (.identifier token.lexeme token.location)
  | group {opening closing : Token} {inner : List Token} {node : Node} :
      opening.kind = .leftParen → Derives .rightExpr inner node → closing.kind = .rightParen →
      Derives .factor (opening :: (inner ++ [closing])) node
  | tighter {symbol : Nonterminal} {tokens : List Token} {node : Node} :
      Derives symbol.tighter tokens node → Derives symbol tokens node
  | binary {op : Operator} {sign : Token} {left right : List Token} {l r : Node} :
      Derives op.leftSide left l → sign.kind = .operator op → Derives op.rightSide right r →
      Derives op.result (left ++ sign :: right) (.binary op l r sign.location)

/-- The tokens of a line and the tree of its statement. An assignment is placed at its sign. -/
inductive Sentence : List Token → Node → Prop where
  | expression {tokens : List Token} {node : Node} : Derives .rightExpr tokens node →
      Sentence tokens node
  | assignment {name sign : Token} {tokens : List Token} {value : Node} :
      name.kind = .identifier → sign.kind = .assign → Derives .rightExpr tokens value →
      Sentence (name :: sign :: tokens) (.assignment name.lexeme value sign.location)

/-- The trees without assignments, roots and missing nodes. -/
inductive Node.IsExpression : Node → Prop where
  | number (value : Float) (location : Location) : IsExpression (.number value location)
  | identifier (name : String) (location : Location) : IsExpression (.identifier name location)
  | binary (op : Operator) {l r : Node} (location : Location) : IsExpression l → IsExpression r →
      IsExpression (.binary op l r location)

theorem Derives.isExpression {symbol : Nonterminal} {tokens : List Token} {node : Node}
    (h : Derives symbol tokens node) : node.IsExpression := by
  induction h with
  | number => exact .number _ _
  | identifier => exact .identifier _ _
  | group _ _ _ ih | tighter _ ih => exact ih
  | binary _ _ _ ihleft ihright => exact .binary _ _ ihleft ihright

inductive Node.IsStatement : Node → Prop where
  | expression {node : Node} : node.IsExpression → IsStatement node
  | assignment (name : String) {value : Node} (location : Location) : value.IsExpression →
      IsStatement (.assignment name value location)

theorem Sentence.isStatement {tokens : List Token} {node : Node} (h : Sentence tokens node) :
    node.IsStatement := by
  cases h with
  | expression h => exact .expression h.isExpression
  | assignment _ _ h => exact .assignment _ _ h.isExpression

theorem Derives.loosen {symbol : Nonterminal} {tokens : List Token} {node : Node}
    (h : Derives symbol tokens node) (looser : Nonterminal) (hle : looser.level ≤ symbol.level) :
    Derives looser tokens node := by
  rcases Nat.eq_or_lt_of_le hle with heq | hlt
  · rw [Nonterminal.eq_of_level_eq heq]
    exact h
  · have hlevel := Nonterminal.level_tighter (Nat.lt_of_lt_of_le hlt symbol.level_le)
    exact .tighter (h.loosen looser.tighter (by omega))
termination_by symbol.level - looser.level

/-- A number token has digits and at most one point. -/
def Token.Readable (token : Token) : Prop :=
  token.kind = .number →
    token.lexeme.toList.all isNumeral = true ∧ Literal.isWellFormed token.lexeme.toList = true

theorem Token.Readable.exists_value {token : Token} (h : token.Readable)
    (hkind : token.kind = .number) : ∃ value, Literal.value? token.lexeme = some value := by
  obtain ⟨hall, hformed⟩ := h hkind
  apply Option.isSome_iff_exists.mp
  rw [Literal.value?_isSome, hall, hformed]
  rfl

theorem Token.Readable.of_value {token : Token} {value : Float}
    (h : Literal.value? token.lexeme = some value) : token.Readable := by
  intro _
  apply (Bool.and_eq_true _ _).mp
  rw [← Literal.value?_isSome, h]
  rfl

theorem Token.Readable.of_kind_ne {token : Token} (h : token.kind ≠ .number) : token.Readable :=
  fun hkind => absurd hkind h

theorem Derives.readable {symbol : Nonterminal} {tokens : List Token} {node : Node}
    (h : Derives symbol tokens node) : ∀ token ∈ tokens, token.Readable := by
  induction h with
  | number _ hvalue => simpa using Token.Readable.of_value hvalue
  | identifier hkind => simpa using Token.Readable.of_kind_ne (by simp [hkind])
  | group hopening _ hclosing ih =>
    rw [List.forall_mem_cons, List.forall_mem_append, List.forall_mem_singleton]
    exact ⟨.of_kind_ne (by simp [hopening]), ih, .of_kind_ne (by simp [hclosing])⟩
  | tighter _ ih => exact ih
  | binary _ hsign _ ihleft ihright =>
    rw [List.forall_mem_append, List.forall_mem_cons]
    exact ⟨ihleft, .of_kind_ne (by simp [hsign]), ihright⟩

theorem Derives.ne_nil {symbol : Nonterminal} {tokens : List Token} {node : Node}
    (h : Derives symbol tokens node) : tokens ≠ [] := by
  induction h with
  | tighter _ ih => exact ih
  | number | identifier | group | binary => simp

theorem Sentence.readable {tokens : List Token} {node : Node} (h : Sentence tokens node) :
    ∀ token ∈ tokens, token.Readable := by
  cases h with
  | expression h => exact h.readable
  | assignment hname hsign h =>
    rw [List.forall_mem_cons, List.forall_mem_cons]
    exact ⟨.of_kind_ne (by simp [hname]), .of_kind_ne (by simp [hsign]), h.readable⟩

theorem Sentence.ne_nil {tokens : List Token} {node : Node} (h : Sentence tokens node) :
    tokens ≠ [] := by
  cases h with
  | expression h => exact h.ne_nil
  | assignment => exact List.cons_ne_nil _ _

theorem Derives.phrase {symbol : Nonterminal} {tokens : List Token} {node : Node}
    (h : Derives symbol tokens node) : Phrase symbol (tokens.map Token.kind) := by
  induction h with
  | number hkind _ => simpa [hkind] using Phrase.number
  | identifier hkind => simpa [hkind] using Phrase.identifier
  | group hopening _ hclosing ih => simpa [hopening, hclosing] using Phrase.group ih
  | @tighter symbol _ _ _ ih =>
    cases symbol with
    | rightExpr => exact .compTerm ih
    | compTerm => exact .term ih
    | term => exact .factor ih
    | factor => exact ih
  | @binary op _ _ _ _ _ _ hsign _ ihleft ihright =>
    rw [List.map_append, List.map_cons, hsign]
    cases op with
    | mul | div => exact .product ihleft (by simp) ihright
    | add | sub => exact .sum ihleft (by simp) ihright
    | gt | ge | lt | le | eq => exact .comparison ihleft (by simp) ihright

theorem Phrase.assign_notMem {symbol : Nonterminal} {kinds : List TokenKind}
    (h : Phrase symbol kinds) : .assign ∉ kinds := by
  induction h with
  | number | identifier => simp
  | group _ ih => simpa using ih
  | factor _ ih | term _ ih | compTerm _ ih => exact ih
  | product _ _ _ ihleft ihright | sum _ _ _ ihleft ihright | comparison _ _ _ ihleft ihright =>
    simp [ihleft, ihright]

/-- The three rules with an operator, for any of the operators. -/
theorem Derives.exists_binary {op : Operator} {tokens : List Token} {left right : List TokenKind}
    (hmap : tokens.map Token.kind = left ++ .operator op :: right)
    (hreadable : ∀ token ∈ tokens, token.Readable)
    (hleft : ∀ tokens : List Token, tokens.map Token.kind = left →
      (∀ token ∈ tokens, token.Readable) → ∃ node, Derives op.leftSide tokens node)
    (hright : ∀ tokens : List Token, tokens.map Token.kind = right →
      (∀ token ∈ tokens, token.Readable) → ∃ node, Derives op.rightSide tokens node) :
    ∃ node, Derives op.result tokens node := by
  obtain ⟨front, back, rfl, hfront, hback⟩ := List.map_eq_append_iff.mp hmap
  obtain ⟨sign, back, rfl, hsign, hback⟩ := List.map_eq_cons_iff.mp hback
  have hfronts : ∀ token ∈ front, token.Readable := by
    intro token htoken
    exact hreadable token (by simp [htoken])
  have hbacks : ∀ token ∈ back, token.Readable := by
    intro token htoken
    exact hreadable token (by simp [htoken])
  obtain ⟨l, hl⟩ := hleft front hfront hfronts
  obtain ⟨r, hr⟩ := hright back hback hbacks
  exact ⟨_, .binary hl hsign hr⟩

theorem Phrase.exists_derives {symbol : Nonterminal} {kinds : List TokenKind}
    (h : Phrase symbol kinds) (tokens : List Token) (hmap : tokens.map Token.kind = kinds)
    (hreadable : ∀ token ∈ tokens, token.Readable) : ∃ node, Derives symbol tokens node := by
  induction h generalizing tokens with
  | number =>
    obtain ⟨token, rfl, hkind⟩ := List.map_eq_singleton_iff.mp hmap
    obtain ⟨value, hvalue⟩ := (hreadable token (by simp)).exists_value hkind
    exact ⟨_, .number hkind hvalue⟩
  | identifier =>
    obtain ⟨token, rfl, hkind⟩ := List.map_eq_singleton_iff.mp hmap
    exact ⟨_, .identifier hkind⟩
  | group _ ih =>
    obtain ⟨opening, rest, rfl, hopening, hrest⟩ := List.map_eq_cons_iff.mp hmap
    obtain ⟨inner, last, rfl, hinner, hlast⟩ := List.map_eq_append_iff.mp hrest
    obtain ⟨closing, rfl, hclosing⟩ := List.map_eq_singleton_iff.mp hlast
    have hinners : ∀ token ∈ inner, token.Readable := by
      intro token htoken
      exact hreadable token (by simp [htoken])
    obtain ⟨node, hnode⟩ := ih inner hinner hinners
    exact ⟨node, .group hopening hnode hclosing⟩
  | factor _ ih | term _ ih | compTerm _ ih =>
    obtain ⟨node, hnode⟩ := ih tokens hmap hreadable
    exact ⟨node, .tighter hnode⟩
  | product _ hop _ ihleft ihright | sum _ hop _ ihleft ihright =>
    simp only [List.mem_cons, List.not_mem_nil, or_false] at hop
    rcases hop with rfl | rfl <;> exact Derives.exists_binary hmap hreadable ihleft ihright
  | comparison _ hop _ ihleft ihright =>
    simp only [List.mem_cons, List.not_mem_nil, or_false] at hop
    rcases hop with rfl | rfl | rfl | rfl | rfl <;>
      exact Derives.exists_binary hmap hreadable ihleft ihright

/-- Readable tokens are a sentence exactly when their kinds are a line. -/
theorem exists_sentence_iff {tokens : List Token} (hreadable : ∀ token ∈ tokens, token.Readable) :
    (∃ node, Sentence tokens node) ↔ IsLine (tokens.map Token.kind) := by
  constructor
  · rintro ⟨node, h⟩
    cases h with
    | expression h => exact .expression h.phrase
    | assignment hname hsign h =>
      rw [List.map_cons, List.map_cons, hname, hsign]
      exact .assignment h.phrase
  · intro h
    generalize hmap : tokens.map Token.kind = kinds at h
    cases h with
    | expression h =>
      obtain ⟨node, hnode⟩ := h.exists_derives tokens hmap hreadable
      exact ⟨node, .expression hnode⟩
    | assignment h =>
      obtain ⟨name, rest, rfl, hname, hrest⟩ := List.map_eq_cons_iff.mp hmap
      obtain ⟨sign, tokens, rfl, hsign, htokens⟩ := List.map_eq_cons_iff.mp hrest
      have hvalues : ∀ token ∈ tokens, token.Readable := by
        intro token htoken
        exact hreadable token (by simp [htoken])
      obtain ⟨value, hvalue⟩ := h.exists_derives tokens htokens hvalues
      exact ⟨_, .assignment hname hsign hvalue⟩

end Calculator
