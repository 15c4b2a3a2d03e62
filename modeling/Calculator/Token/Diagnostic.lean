import Calculator.Token.Scan
import Calculator.Text.Lines

/-! # Pointing at a place in a source text

A diagnostic shows the message and the place, then the piece of the source line around the place,
then a caret below the column. The piece reaches from ten columns before the place to nine after
it; an ellipsis stands where the line goes on.
-/
namespace Calculator

structure Diagnostic where
  message : String
  source : String
  location : Location

def LexicalError.diagnostic (e : LexicalError) (source : String) : Diagnostic :=
  ⟨e.fault.message, source, e.location⟩

structure NoSuchLine where

def NoSuchLine.message (_ : NoSuchLine) : String :=
  "list index out of range"

namespace Diagnostic

/-- How far a piece of the line reaches to either side of the column. -/
def reach : Nat := 10

def ellipsis : List Char := ['.', '.', '.']

/-- The piece of a line around a column, with an ellipsis on each side where the line goes on. -/
def excerpt (line : List Char) (column : Nat) : List Char :=
  let start := column - reach
  let stop := min line.length (column + reach)
  (if 0 < start then ellipsis else []) ++ (line.drop start).take (stop - start) ++
    (if stop < line.length then ellipsis else [])

def caretIndex (column : Nat) : Nat :=
  let start := column - reach
  column - start + (if 0 < start then ellipsis.length else 0)

def caretLine (column : Nat) : List Char :=
  List.replicate (caretIndex column) ' ' ++ ['^']

def line? (diagnostic : Diagnostic) : Option (List Char) :=
  if diagnostic.location.line < 0 then none
  else (linesOf diagnostic.source.toList)[diagnostic.location.line.toNat]?

def render (diagnostic : Diagnostic) : Except NoSuchLine String :=
  match diagnostic.line? with
  | none => .error {}
  | some line =>
    let column := diagnostic.location.column.toNat
    .ok ("[Tokenizer error] " ++ diagnostic.message ++ " at " ++ diagnostic.location.text ++ "\n" ++
      String.ofList (excerpt line column) ++ "\n" ++ String.ofList (caretLine column))

end Diagnostic

end Calculator
