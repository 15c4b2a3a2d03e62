/-! # Binary operators

The nine operators, their binding strength and their meaning on numbers. Comparisons yield `1` or
`0`, bind loosest and do not chain; equality holds up to a fixed tolerance.
-/
namespace Calculator

inductive Operator where
  | add | sub | mul | div | gt | ge | lt | le | eq
  deriving DecidableEq

namespace Operator

def all : List Operator := [add, sub, mul, div, gt, ge, lt, le, eq]

def name : Operator → String
  | add => "SUM"
  | sub => "SUB"
  | mul => "MUL"
  | div => "DIV"
  | gt => "GT"
  | ge => "GE"
  | lt => "LT"
  | le => "LE"
  | eq => "EQ"

def symbol : Operator → String
  | add => "+"
  | sub => "-"
  | mul => "*"
  | div => "/"
  | gt => ">"
  | ge => ">="
  | lt => "<"
  | le => "<="
  | eq => "=="

def ofName? (name : String) : Option Operator :=
  all.find? (·.name == name)

theorem ofName?_name (op : Operator) : ofName? op.name = some op := by
  cases op <;> rfl

theorem name_injective {op op' : Operator} (h : op.name = op'.name) : op = op' := by
  have := ofName?_name op
  rw [h, ofName?_name] at this
  exact (Option.some.inj this).symm

/-- How tight an operator binds, from `0` for the loosest. -/
def precedence : Operator → Nat
  | gt | ge | lt | le | eq => 0
  | add | sub => 1
  | mul | div => 2

/-- Whether several operators of this level may follow each other without parentheses. The
comparisons may not. -/
def isChainable (op : Operator) : Bool :=
  op.precedence != 0

/-- Numbers that differ by less than this count as equal: the distance from `1` to the next
number, `2 ^ (-52)`. -/
def tolerance : Float := 1.0 / 4503599627370496.0

def indicator (holds : Bool) : Float :=
  if holds then 1.0 else 0.0

/-- The value of an operator at two numbers, in binary floating point of 64 bits. Division by zero
gives an infinity or no number, as the standard has it. -/
def apply : Operator → Float → Float → Float
  | add, l, r => l + r
  | sub, l, r => l - r
  | mul, l, r => l * r
  | div, l, r => l / r
  | gt, l, r => indicator (decide (r < l))
  | ge, l, r => indicator (decide (r ≤ l))
  | lt, l, r => indicator (decide (l < r))
  | le, l, r => indicator (decide (l ≤ r))
  | eq, l, r => indicator (decide ((l - r).abs < tolerance))

/-- A request for the precedence of something that is no operator; `none` stands for no subject
at all. -/
structure NoPrecedence where
  subject : Option String

def NoPrecedence.message (e : NoPrecedence) : String :=
  "Operator without precedence: " ++ e.subject.getD "None"

def precedenceOf (subject : Option String) : Except NoPrecedence (Nat × Bool) :=
  match subject.bind ofName? with
  | some op => .ok (op.precedence, op.isChainable)
  | none => .error ⟨subject⟩

end Operator

end Calculator
