import Calculator.Evaluation
import Calculator.Token.Scan

/-! # Sessions

A session owns a symbol table and remembers the last result of its last successful run. A source
text is scanned, parsed and evaluated as a whole; nothing is evaluated unless all of it parses.
-/
namespace Calculator

inductive RunError where
  | lexical (error : LexicalError)
  | parse (error : ParseError)
  | eval (error : EvalError)

structure Session where
  table : SymbolTable
  value : Option Float

/-- What a run yields: the results or an error, the session as it is afterwards, and the log. -/
structure RunReport where
  result : Except RunError (List Float)
  session : Session
  log : List Event

namespace Session

def new (constants : SymbolTable) : Session :=
  ⟨constants, none⟩

def evaluate (session : Session) (program : Program) : RunReport :=
  let done := program.evaluate session.table
  match done.result with
  | .error e => ⟨.error (.eval e), { session with table := done.table }, done.log⟩
  | .ok results =>
    ⟨.ok results, ⟨done.table, results.getLast?⟩, done.log ++ [.evaluated results.length]⟩

def runParsing (session : Session) (parsing : Parsing) : RunReport :=
  match parsing.result with
  | .error e => ⟨.error (.parse e), session, parsing.log⟩
  | .ok program =>
    let report := session.evaluate program
    { report with log := parsing.log ++ report.log }

/-- Runs a source text in a session. -/
def run (session : Session) (source : String) : RunReport :=
  match scan source with
  | .error e => ⟨.error (.lexical e), session, []⟩
  | .ok tokens => session.runParsing (.ofTokens tokens)

end Session

end Calculator
