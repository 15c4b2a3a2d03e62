import Calculator.Line.Statement
import Calculator.Event
import Calculator.Text.Lines

/-! # Programs

A program has one statement on each line that has a token. The lines are read independently of each
other: one that is refused is logged, and all refusals are reported together.
-/
namespace Calculator

/-- A program: its statements, and the place of the first of them. -/
structure Program where
  statements : List Node
  location : Location

namespace Program

def ofStatements (statements : List Node) : Program :=
  ⟨statements, (statements.head?.bind Node.location?).getD .origin⟩

def toNode (program : Program) : Node :=
  .root program.statements program.location

end Program

inductive ParseError where
  /-- The refusals of all lines that are no statements, in order. -/
  | refused (errors : List LineError)
  | defect (defect : Defect)

def ParseError.message : ParseError → String
  | refused errors => joined (errors.map ("Parser error: " ++ ·.message))
  | defect d => d.message

/-- What reading a program yields: the program or the errors, and the log. -/
structure Parsing where
  result : Except ParseError Program
  log : List Event

namespace Parsing

/-- The statements and the refusals among what has been read line by line. -/
def gather : List (Except LineFailure Node) → Except Defect (List Node × List LineError)
  | [] => .ok ([], [])
  | outcome :: rest =>
    match outcome, gather rest with
    | .error (.defect d), _ => .error d
    | _, .error d => .error d
    | .ok statement, .ok (statements, errors) => .ok (statement :: statements, errors)
    | .error (.refused error), .ok (statements, errors) => .ok (statements, error :: errors)

def resultOf (outcomes : List (Except LineFailure Node)) : Except ParseError Program :=
  match gather outcomes with
  | .error d => .error (.defect d)
  | .ok (statements, []) => .ok (.ofStatements statements)
  | .ok (_, errors) => .error (.refused errors)

def eventOf (number : Int) : Except LineFailure Node → Option Event
  | .error (.refused error) => some (.skipped number error)
  | _ => none

def ofTokens (tokens : List Token) : Parsing :=
  let outcomes := (Line.ofTokens tokens).map fun line => (line.number, line.statement)
  ⟨resultOf (outcomes.map (·.2)), outcomes.filterMap fun (number, outcome) => eventOf number outcome⟩

end Parsing

def parse (tokens : List Token) : Except ParseError Program :=
  (Parsing.ofTokens tokens).result

end Calculator
