import Calculator.Token.Basic
import Calculator.Token.Literal
import Calculator.Text.Quoted

/-! # Reading tokens from a text

At each place the longest lexeme that begins there is taken: a maximal run of digits and points, a
letter with the maximal run of name characters, a symbol of two characters, or one of a single
character. Blank characters separate lexemes and are passed over; a line feed begins a new line.
The first character or run that fits none of this ends the reading.
-/
namespace Calculator

inductive LexicalFault where
  | malformedNumber (run : List Char)
  | unexpectedCharacter (c : Char)
  deriving DecidableEq

def LexicalFault.message : LexicalFault → String
  | malformedNumber run => "Malformed number: " ++ quoted (String.ofList run)
  | unexpectedCharacter c => "Unexpected character: " ++ quoted (String.singleton c)

structure LexicalError where
  fault : LexicalFault
  location : Location
  deriving DecidableEq

/-- What stands at the head of a text. -/
inductive Head where
  /-- A lexeme of the given kind, with the characters after its first. -/
  | lexeme (kind : TokenKind) (tail : List Char)
  | blank
  | faulty (fault : LexicalFault)
  deriving DecidableEq

/-- The kind of the symbol that begins with `c`, and whether it goes on with an equals sign. The
longer symbol is preferred. -/
def symbolAt? (c : Char) (equalsFollows : Bool) : Option (TokenKind × Bool) :=
  match c, equalsFollows with
  | '>', true => some (.operator .ge, true)
  | '<', true => some (.operator .le, true)
  | '=', true => some (.operator .eq, true)
  | '>', false => some (.operator .gt, false)
  | '<', false => some (.operator .lt, false)
  | '=', false => some (.assign, false)
  | '+', _ => some (.operator .add, false)
  | '-', _ => some (.operator .sub, false)
  | '*', _ => some (.operator .mul, false)
  | '/', _ => some (.operator .div, false)
  | '(', _ => some (.leftParen, false)
  | ')', _ => some (.rightParen, false)
  | _, _ => none

def Head.of (c : Char) (rest : List Char) : Head :=
  if isNumeral c then
    let tail := rest.takeWhile isNumeral
    if Literal.isWellFormed (c :: tail) then .lexeme .number tail
    else .faulty (.malformedNumber (c :: tail))
  else if isLetter c then .lexeme .identifier (rest.takeWhile isNamePart)
  else match symbolAt? c (rest.head? == some '=') with
    | some (kind, two) => .lexeme kind (if two then ['='] else [])
    | none => if isBlank c then .blank else .faulty (.unexpectedCharacter c)

def Location.after (location : Location) (c : Char) : Location :=
  if c = '\n' then location.newline else location.right 1

/-- The tokens of a text whose first character stands at `here`. -/
def scanFrom (here : Location) : List Char → Except LexicalError (List Token)
  | [] => .ok []
  | c :: rest =>
    match Head.of c rest with
    | .lexeme kind tail =>
      match scanFrom (here.right (tail.length + 1)) (rest.drop tail.length) with
      | .ok tokens => .ok (⟨kind, String.ofList (c :: tail), here⟩ :: tokens)
      | .error e => .error e
    | .blank => scanFrom (here.after c) rest
    | .faulty fault => .error ⟨fault, here⟩
termination_by text => text.length
decreasing_by
  · simp only [List.length_drop, List.length_cons]
    omega
  · simp

/-- The tokens of a text, or its first fault. -/
def scan (source : String) : Except LexicalError (List Token) :=
  scanFrom .origin source.toList

end Calculator
