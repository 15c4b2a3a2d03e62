import Calculator.Text.Letters
import Calculator.Text.Digits
import Calculator.Text.Numerics
import Calculator.Text.Blanks

/-! # Character classes

What a character may do in a source text. The classes are read off one classification, so that no
character is in two of them.
-/
namespace Calculator

inductive CharClass where
  | digit (value : Nat)
  | letter
  /-- A numeric character that may continue a name, but neither begins one nor is part of a number. -/
  | numeric
  | other
  deriving DecidableEq

def CharClass.of (c : Char) : CharClass :=
  match digitValue? c with
  | some value => .digit value
  | none =>
    if letters.contains c.toNat then .letter
    else if numerics.contains c.toNat then .numeric
    else .other

def isDigit (c : Char) : Bool :=
  (digitValue? c).isSome

def isLetter (c : Char) : Bool :=
  match CharClass.of c with
  | .letter => true
  | _ => false

def isNumeral (c : Char) : Bool :=
  isDigit c || c == '.'

/-- Whether a character may continue a name: a letter, a digit, a numeric character or `_`. -/
def isNamePart (c : Char) : Bool :=
  match CharClass.of c with
  | .other => c == '_'
  | _ => true

theorem isDigit_eq_false_of_isLetter {c : Char} (h : isLetter c = true) : isDigit c = false := by
  unfold isLetter CharClass.of at h
  unfold isDigit
  cases hd : digitValue? c with
  | none => rfl
  | some d => simp [hd] at h

theorem isNamePart_of_isLetter {c : Char} (h : isLetter c = true) : isNamePart c = true := by
  unfold isLetter at h
  unfold isNamePart
  cases hc : CharClass.of c <;> simp_all

/-- The characters with a meaning of their own: the operators, the parentheses, the decimal point
and the low line. -/
def specials : List Char :=
  ['+', '-', '*', '/', '>', '<', '=', '(', ')', '.', '_']

theorem class_of_mem_specials : ∀ c ∈ specials, CharClass.of c = .other := by
  have h : specials.all (fun c => decide (CharClass.of c = .other)) = true := by decide
  exact fun c hc => of_decide_eq_true (List.all_eq_true.1 h c hc)

end Calculator
