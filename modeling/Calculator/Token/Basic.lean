import Calculator.Location
import Calculator.Operator

/-! # Tokens

A token is a lexeme with its kind and the place of its first character. The kinds with one fixed
spelling are the operators, the assignment sign and the parentheses.
-/
namespace Calculator

inductive TokenKind where
  | number
  | identifier
  | operator (op : Operator)
  | assign
  | leftParen
  | rightParen
  deriving DecidableEq

namespace TokenKind

def all : List TokenKind :=
  [number, identifier, assign, leftParen, rightParen] ++ Operator.all.map operator

def name : TokenKind → String
  | number => "NUMBER"
  | identifier => "IDENTIFIER"
  | operator .add => "PLUS"
  | operator .sub => "MINUS"
  | operator .mul => "TIMES"
  | operator .div => "DIV"
  | operator .gt => "GREATER_THAN"
  | operator .ge => "GREATER_THAN_OR_EQUAL"
  | operator .lt => "LESS_THAN"
  | operator .le => "LESS_THAN_OR_EQUAL"
  | operator .eq => "EQUAL"
  | assign => "ASSIGN"
  | leftParen => "LEFT_PAREN"
  | rightParen => "RIGHT_PAREN"

def ofName? (name : String) : Option TokenKind :=
  all.find? (·.name == name)

theorem ofName?_name (kind : TokenKind) : ofName? kind.name = some kind := by
  cases kind with
  | operator op => cases op <;> rfl
  | _ => rfl

/-- The spelling of a kind that has only one. -/
def spelling? : TokenKind → Option String
  | number | identifier => none
  | operator op => some op.symbol
  | assign => some "="
  | leftParen => some "("
  | rightParen => some ")"

end TokenKind

structure Token where
  kind : TokenKind
  lexeme : String
  location : Location
  deriving DecidableEq

namespace Token

def line (token : Token) : Int :=
  token.location.line

def endLocation (token : Token) : Location :=
  token.location.right ((token.lexeme.length : Int) - 1)

/-- A token as `<KIND>lexeme`. -/
def text (token : Token) : String :=
  "<" ++ token.kind.name ++ ">" ++ token.lexeme

end Token

end Calculator
