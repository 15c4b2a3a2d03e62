import Calculator.Proofs.Program.Reading
import Calculator.Proofs.Scan.Excerpt
import Calculator.Proofs.Session.Atomicity

/-! # What a run can end with

A run ends with results or with one of three errors: a fault of the text, refusals of lines, or a name
without a value. Whichever it is, its text can be shown. The ways in which scanning, reading and
evaluating could leave their own rules are not reached by any text.
-/
namespace Calculator

/-- The text that shows an error of a run. That of a fault points into the source. -/
def RunError.text (source : String) : RunError → Except NoSuchLine String
  | lexical e => (e.diagnostic source).render
  | parse e => .ok e.message
  | eval e => .ok e.message

namespace Session

end Session

end Calculator
