import Calculator.Text.Quoted

/-! # Broken stack disciplines

The parser and the evaluator keep their own stacks. What would have to be true for a stack to run
short, or for a number token to hold no number, is listed here, so that it can be said and shown
that it never happens.
-/
namespace Calculator

inductive Defect where
  /-- An operator has to be applied and an operand is missing. -/
  | missingOperand
  /-- A group is closed and no open parenthesis is pending. -/
  | unmatchedGroup
  | unreadableNumber (lexeme : String)
  deriving DecidableEq

def Defect.message : Defect → String
  | missingOperand | unmatchedGroup => "pop from empty list"
  | unreadableNumber lexeme => "could not convert string to float: " ++ quoted lexeme

end Calculator
