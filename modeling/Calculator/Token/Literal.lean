import Calculator.Text.CharClass

/-! # Number literals

A literal is a run of decimal digits, of any script, with at most one decimal point and at least
one digit. Its value is the number of 64 bits nearest to the decimal that it writes.
-/
namespace Calculator

namespace Literal

/-- Whether a run of digits and points is a number: one digit or more, one point or none. -/
def isWellFormed (run : List Char) : Bool :=
  run.any isDigit && decide (run.count '.' ≤ 1)

def coefficient (run : List Char) : Nat :=
  run.foldl (fun n c => match digitValue? c with | some d => 10 * n + d | none => n) 0

def decimals (run : List Char) : Nat :=
  ((run.dropWhile (· != '.')).drop 1).length

def value? (lexeme : String) : Option Float :=
  if lexeme.toList.all isNumeral && isWellFormed lexeme.toList then
    some (Float.ofScientific (coefficient lexeme.toList) true (decimals lexeme.toList))
  else none

theorem value?_isSome (lexeme : String) :
    (value? lexeme).isSome = (lexeme.toList.all isNumeral && isWellFormed lexeme.toList) := by
  unfold value?
  split <;> simp_all

end Literal

end Calculator
