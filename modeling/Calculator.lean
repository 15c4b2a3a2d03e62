import Calculator.Decimal.Text
import Calculator.Evaluation
import Calculator.Program
import Calculator.Session
import Calculator.Token.Diagnostic
import Calculator.Tree.Description
import Calculator.Tree.Outline
import Calculator.Workspace
import Calculator.Proofs.Grammar.Basic
import Calculator.Proofs.Reading.Completeness
import Calculator.Proofs.Reading.Invariant
import Calculator.Proofs.Reading.Statement
import Calculator.Proofs.Reading.Viable
import Calculator.Proofs.Reading.FirstRefusal
import Calculator.Proofs.Evaluation.Recursion
import Calculator.Proofs.Scan.Lexeme
import Calculator.Proofs.Scan.Lines
import Calculator.Proofs.Program.Lines
import Calculator.Proofs.Evaluation.Statements
import Calculator.Proofs.Session.Atomicity
import Calculator.Proofs.Scan.Segmentation
import Calculator.Proofs.Program.Independence
import Calculator.Proofs.Session.Series
import Calculator.Proofs.Scan.Spaced
import Calculator.Proofs.Program.RoundTrip
import Calculator.Proofs.Evaluation.Walk
import Calculator.Proofs.Evaluation.Dependence
import Calculator.Proofs.Scan.Places
import Calculator.Proofs.Program.Statements
import Calculator.Proofs.Program.Places
import Calculator.Proofs.Program.Names
import Calculator.Proofs.Program.Substitution
import Calculator.Proofs.Session.Isolation
import Calculator.Proofs.Session.Log
import Calculator.Proofs.Session.Outcomes
import Calculator.Proofs.Program.Parentheses
import Calculator.Proofs.Scan.Offsets
import Calculator.Proofs.Scan.Boundaries
import Calculator.Proofs.Scan.FirstFault
import Calculator.Proofs.Scan.Excerpt
import Calculator.Proofs.Scan.Layout
import Calculator.Proofs.Program.Runs
import Calculator.Proofs.Evaluation.Rejection
import Calculator.Proofs.Evaluation.Reordering
import Calculator.Proofs.Program.Outline
import Calculator.Proofs.Program.Display
import Calculator.Proofs.Program.Comparison
import Calculator.Proofs.Reading.Discipline
import Calculator.Proofs.Scan.Insertion
import Calculator.Proofs.Session.Spacing
