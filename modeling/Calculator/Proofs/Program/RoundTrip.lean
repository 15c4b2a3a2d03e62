import Calculator.Proofs.Program.Lines
import Calculator.Proofs.Program.Relocation
import Calculator.Proofs.Scan.Spaced

/-! # Writing a tree and reading it back

An expression is written with single spaces, and with parentheses around an operand only where it
would otherwise not be taken as a whole. What is written is read back as the tree of the expression:
its words are scanned one by one, and the symbol of its operator derives them.
-/
namespace Calculator

/-- A name as it is spelled. -/
structure Name where
  first : Char
  rest : List Char
  isLetter_first : isLetter first = true
  isNamePart_rest : ∀ c ∈ rest, isNamePart c = true

structure Numeral where
  spelling : String
  isNumeral_spelling : ∀ c ∈ spelling.toList, isNumeral c = true
  isDecimal_spelling : IsDecimal spelling.toList

/-- An expression with its names and numbers as they are spelled. -/
inductive Expression where
  | numeral (numeral : Numeral)
  | name (name : Name)
  | operation (op : Operator) (left right : Expression)

structure Statement where
  target? : Option Name
  value : Expression

namespace Name

def spelling (name : Name) : String :=
  String.ofList (name.first :: name.rest)

def word (name : Name) : Word where
  kind := .identifier
  spelling := name.spelling
  isWord := by
    rw [spelling, String.toList_ofList]
    exact .identifier name.isLetter_first name.isNamePart_rest
  isDecimal := nofun

end Name

namespace Numeral

variable (numeral : Numeral)

def value : Float :=
  .ofScientific (Literal.coefficient numeral.spelling.toList) true
    (Literal.decimals numeral.spelling.toList)

theorem value?_eq : Literal.value? numeral.spelling = some numeral.value := by
  rw [Literal.value?, List.all_eq_true.mpr numeral.isNumeral_spelling,
    (isDecimal_iff _).mp numeral.isDecimal_spelling]
  rfl

def word : Word where
  kind := .number
  spelling := numeral.spelling
  isWord := by
    obtain ⟨c, hc, _⟩ := numeral.isDecimal_spelling.1
    exact .number (List.ne_nil_of_mem hc) numeral.isNumeral_spelling
  isDecimal := fun _ => numeral.isDecimal_spelling

end Numeral

namespace Word

def operator (op : Operator) : Word := ofSymbol (.operator op) op.symbol rfl

def assign : Word := ofSymbol .assign "=" rfl

def leftParen : Word := ofSymbol .leftParen "(" rfl

def rightParen : Word := ofSymbol .rightParen ")" rfl

end Word

def enclosed (needed : Bool) (words : List Word) : List Word :=
  if needed then .leftParen :: (words ++ [.rightParen]) else words

namespace Expression

def operator? : Expression → Option Operator
  | operation op _ _ => some op
  | _ => none

/-- Parentheses stand around a left operand that binds looser, and around a comparison in a
comparison. -/
def needsLeft (op : Operator) (left : Expression) : Bool :=
  left.operator?.any fun inner =>
    decide (inner.precedence < op.precedence) || !inner.isChainable && !op.isChainable

/-- Parentheses stand around a right operand that binds no tighter. -/
def needsRight (op : Operator) (right : Expression) : Bool :=
  right.operator?.any fun inner => decide (inner.precedence ≤ op.precedence)

/-- The words by which an expression is written. -/
def words : Expression → List Word
  | numeral n => [n.word]
  | name n => [n.word]
  | operation op left right =>
    enclosed (left.needsLeft op) left.words ++
      .operator op :: enclosed (right.needsRight op) right.words

/-- The tree of an expression, without any places. -/
def tree : Expression → Node
  | numeral n => .number n.value .origin
  | name n => .identifier n.spelling .origin
  | operation op left right => .binary op left.tree right.tree .origin

end Expression

namespace Statement

def words (statement : Statement) : List Word :=
  match statement.target? with
  | none => statement.value.words
  | some target => target.word :: .assign :: statement.value.words

def tree (statement : Statement) : Node :=
  match statement.target? with
  | none => statement.value.tree
  | some target => .assignment target.spelling statement.value.tree .origin

def text (statement : Statement) : String :=
  Word.spaced statement.words

end Statement

def Node.shape (node : Node) : Node :=
  node.relocate fun _ => .origin

/-- A symbol derives words wherever they stand, and the derivation has the given tree. -/
def DerivesWords (symbol : Nonterminal) (words : List Word) (tree : Node) : Prop :=
  ∀ tokens : List Token, tokens.map Token.key = words.map Word.key →
    ∃ node, Derives symbol tokens node ∧ node.shape = tree

theorem Token.of_key_eq {token : Token} {word : Word} (h : token.key = word.key) :
    token.kind = word.kind ∧ token.lexeme = word.spelling :=
  Prod.mk.inj h

namespace DerivesWords

variable {symbol : Nonterminal} {words left right : List Word} {tree l r : Node}

theorem numeral (n : Numeral) : DerivesWords .factor [n.word] (.number n.value .origin) := by
  intro tokens h
  obtain ⟨token, rfl, htoken⟩ := List.map_eq_singleton_iff.mp h
  obtain ⟨hkind, hlexeme⟩ := Token.of_key_eq htoken
  have hvalue : Literal.value? token.lexeme = some n.value := by
    rw [hlexeme]
    exact n.value?_eq
  exact ⟨_, .number hkind hvalue, rfl⟩

theorem name (n : Name) : DerivesWords .factor [n.word] (.identifier n.spelling .origin) := by
  intro tokens h
  obtain ⟨token, rfl, htoken⟩ := List.map_eq_singleton_iff.mp h
  obtain ⟨hkind, hlexeme⟩ := Token.of_key_eq htoken
  refine ⟨_, .identifier hkind, ?_⟩
  rw [Node.shape, Node.relocate, hlexeme]
  rfl

theorem loosen (h : DerivesWords symbol words tree) {looser : Nonterminal}
    (hle : looser.level ≤ symbol.level) : DerivesWords looser words tree := by
  intro tokens htokens
  obtain ⟨node, hnode, hshape⟩ := h tokens htokens
  exact ⟨node, hnode.loosen looser hle, hshape⟩

theorem group (h : DerivesWords .rightExpr words tree) :
    DerivesWords .factor (.leftParen :: (words ++ [.rightParen])) tree := by
  intro tokens htokens
  rw [List.map_cons, List.map_append] at htokens
  obtain ⟨opening, rest, rfl, hopening, hrest⟩ := List.map_eq_cons_iff.mp htokens
  obtain ⟨inner, last, rfl, hinner, hlast⟩ := List.map_eq_append_iff.mp hrest
  obtain ⟨closing, rfl, hclosing⟩ := List.map_eq_singleton_iff.mp hlast
  obtain ⟨node, hnode, hshape⟩ := h inner hinner
  exact ⟨node, .group (Token.of_key_eq hopening).1 hnode (Token.of_key_eq hclosing).1, hshape⟩

theorem operand (h : DerivesWords symbol words tree) {outer : Nonterminal} {needed : Bool}
    (hlevel : needed = false → outer.level ≤ symbol.level) :
    DerivesWords outer (enclosed needed words) tree := by
  cases needed with
  | true => exact (group (h.loosen (Nat.zero_le _))).loosen outer.level_le
  | false => exact h.loosen (hlevel rfl)

theorem binary {op : Operator} (hleft : DerivesWords op.leftSide left l)
    (hright : DerivesWords op.rightSide right r) :
    DerivesWords op.result (left ++ .operator op :: right) (.binary op l r .origin) := by
  intro tokens htokens
  rw [List.map_append, List.map_cons] at htokens
  obtain ⟨front, rest, rfl, hfront, hrest⟩ := List.map_eq_append_iff.mp htokens
  obtain ⟨sign, back, rfl, hsign, hback⟩ := List.map_eq_cons_iff.mp hrest
  obtain ⟨l, hl, rfl⟩ := hleft front hfront
  obtain ⟨r, hr, rfl⟩ := hright back hback
  exact ⟨_, .binary hl (Token.of_key_eq hsign).1 hr, rfl⟩

end DerivesWords

namespace Expression

def symbol : Expression → Nonterminal
  | operation op _ _ => op.result
  | _ => .factor

theorem level_leftSide_le {op : Operator} {left : Expression} (h : left.needsLeft op = false) :
    op.leftSide.level ≤ left.symbol.level := by
  cases left with
  | numeral | name => exact Nonterminal.level_le _
  | operation inner l r =>
    have hsymbol : (operation inner l r).symbol.level = inner.precedence := inner.level_result
    have hlevel := op.level_leftSide_le
    obtain ⟨hle, hchain⟩ : op.precedence ≤ inner.precedence ∧
        (inner.isChainable = false → 0 < op.precedence) := by
      simpa [needsLeft, operator?, Operator.isChainable_iff] using h
    cases hinner : inner.isChainable with
    | true =>
      have hpos := inner.isChainable_iff.mp hinner
      omega
    | false =>
      have hpos := hchain hinner
      omega

theorem level_rightSide_le {op : Operator} {right : Expression} (h : right.needsRight op = false) :
    op.rightSide.level ≤ right.symbol.level := by
  cases right with
  | numeral | name => exact Nonterminal.level_le _
  | operation inner l r =>
    have hsymbol : (operation inner l r).symbol.level = inner.precedence := inner.level_result
    have hlevel := op.level_rightSide
    have hlt : op.precedence < inner.precedence := by simpa [needsRight, operator?] using h
    omega

theorem derivesWords (e : Expression) : DerivesWords e.symbol e.words e.tree := by
  induction e with
  | numeral n => exact .numeral n
  | name n => exact .name n
  | operation op left right ihleft ihright =>
    exact .binary (ihleft.operand level_leftSide_le) (ihright.operand level_rightSide_le)

theorem words_ne_nil (e : Expression) : e.words ≠ [] := by
  cases e <;> simp [words]

end Expression

namespace Statement

theorem words_ne_nil (statement : Statement) : statement.words ≠ [] := by
  obtain ⟨target?, value⟩ := statement
  cases target? with
  | none => exact value.words_ne_nil
  | some target => exact List.cons_ne_nil _ _

theorem exists_sentence (statement : Statement) {tokens : List Token}
    (h : tokens.map Token.key = statement.words.map Word.key) :
    ∃ node, Sentence tokens node ∧ node.shape = statement.tree := by
  obtain ⟨target?, value⟩ := statement
  have hvalue : DerivesWords .rightExpr value.words value.tree :=
    value.derivesWords.loosen (Nat.zero_le _)
  cases target? with
  | none =>
    obtain ⟨node, hnode, hshape⟩ := hvalue tokens h
    exact ⟨node, .expression hnode, hshape⟩
  | some target =>
    obtain ⟨name, rest, rfl, hname, hrest⟩ := List.map_eq_cons_iff.mp h
    obtain ⟨sign, tokens, rfl, hsign, htokens⟩ := List.map_eq_cons_iff.mp hrest
    obtain ⟨node, hnode, hshape⟩ := hvalue tokens htokens
    obtain ⟨hkind, hlexeme⟩ := Token.of_key_eq hname
    refine ⟨_, .assignment hkind (Token.of_key_eq hsign).1 hnode, ?_⟩
    calc (Node.assignment name.lexeme node sign.location).shape
        = .assignment name.lexeme node.shape .origin := by
          rw [Node.shape, Node.relocate, Node.shape]
      _ = .assignment target.spelling value.tree .origin := by
        rw [hlexeme, hshape]
        rfl

/-- What is written is read back. The text of a statement is scanned and parsed, and the program has
one statement: the tree that was written, but for its places. -/
theorem parse_text (statement : Statement) :
    ∃ tokens program node, scan statement.text = .ok tokens ∧ parse tokens = .ok program ∧
      program.statements = [node] ∧ node.shape = statement.tree := by
  obtain ⟨tokens, hscan, hkeys, hline⟩ := Word.scan_spaced statement.words
  obtain ⟨node, hnode, hshape⟩ := statement.exists_sentence hkeys
  have hreadable : ∀ token ∈ tokens, token.Readable := fun token htoken =>
    (line_of_mem_scanFrom hscan htoken).2.2
  cases tokens with
  | nil => exact absurd (List.map_eq_nil_iff.mp hkeys.symm) statement.words_ne_nil
  | cons first rest =>
    have hstatement := ((Line.mk first rest).statement_eq_ok_iff_sentence hreadable node).mpr hnode
    have hparse : parse (first :: rest) = .ok (.ofStatements [node]) := by
      refine (parse_eq_ok_iff _ _).mpr ⟨[node], ?_, rfl⟩
      rw [Line.ofTokens_of_line_eq hline]
      simp [hstatement]
    exact ⟨_, _, node, hscan, hparse, rfl, hshape⟩

example :
    let name (c : Char) (h : isLetter c = true) : Expression := .name ⟨c, [], h, nofun⟩
    let a := name 'a' (by decide)
    let b := name 'b' (by decide)
    (Statement.mk none
      (.operation .gt (.operation .sub (.operation .sub a b) (.operation .sub b a))
        (.operation .mul (.operation .add a b) a))).text = "a - b - ( b - a ) > ( a + b ) * a" := by
  decide +kernel

end Statement

end Calculator
