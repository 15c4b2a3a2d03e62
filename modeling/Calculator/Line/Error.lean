import Calculator.Location
import Calculator.Text.Quoted
import Calculator.Defect

/-! # What can be wrong with a line

A line is refused at the first token that no statement can have there, or at its end if the
statement is not complete.
-/
namespace Calculator

inductive LineError where
  | unexpectedToken (lexeme : String) (location : Location)
  | unexpectedEnd (location : Location)
  /-- A parenthesis is open and neither an operator nor a closing parenthesis follows; `none` stands
  for the end of the line. -/
  | unclosedParen (found : Option String) (location : Location)
  deriving DecidableEq

namespace LineError

def location : LineError → Location
  | unexpectedToken _ location | unexpectedEnd location | unclosedParen _ location => location

/-- What is found where a closing parenthesis is missing. -/
def foundText (found : Option String) : String :=
  found.getD "EOL"

def message : LineError → String
  | unexpectedToken lexeme location =>
    "Unexpected token " ++ quoted lexeme ++ " at " ++ location.text
  | unexpectedEnd location => "Unexpected end of line at " ++ location.text
  | unclosedParen found location =>
    "Expected close parenthesis at " ++ location.text ++ ", got " ++ foundText found

end LineError

inductive LineFailure where
  | refused (error : LineError)
  | defect (defect : Defect)
  deriving DecidableEq

end Calculator
