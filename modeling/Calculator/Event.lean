import Calculator.Line.Error
import Calculator.Decimal.Text

/-! # The log

What is recorded while a program is read and evaluated: refused lines, stored values, and the end
of a run.
-/
namespace Calculator

inductive Event where
  | skipped (line : Int) (error : LineError)
  | stored (name : String) (value : Float)
  | evaluated (count : Nat)

def Event.message : Event → String
  | skipped line error => "Skipping line " ++ toString line ++ ": " ++ error.message
  | stored name value => name ++ " = " ++ numberText value
  | evaluated count => "Evaluated " ++ toString count ++ " statement(s)"

end Calculator
