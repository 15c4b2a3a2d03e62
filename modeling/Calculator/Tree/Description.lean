import Calculator.Tree.Basic
import Calculator.Decimal.Text
import Calculator.Text.Quoted

/-! # Trees described field by field

A tree in full, with the name and the value of every field: the form in which a message quotes a
tree that it complains about. The description of a node asks for those of the nodes below it, so
that a deep tree is described only where there is room for as many calls within each other.
-/
namespace Calculator

def Location.description (location : Location) : String :=
  "Location(line=" ++ toString location.line ++ ", column=" ++ toString location.column ++ ")"

namespace Node

mutual

def description : Node → String
  | number value location =>
    "Number(value=" ++ numberText value ++ ", location=" ++ location.description ++ ")"
  | identifier name location =>
    "Identifier(name=" ++ quoted name ++ ", location=" ++ location.description ++ ")"
  | binary op left right location =>
    "BinaryOperation(operator=" ++ op.name ++ ", left=" ++ description left ++ ", right=" ++
      description right ++ ", location=" ++ location.description ++ ")"
  | assignment name value location =>
    "Assignment(name=" ++ quoted name ++ ", value=" ++ description value ++ ", location=" ++
      location.description ++ ")"
  | root statements location =>
    "Root(statements=[" ++ ", ".intercalate (descriptions statements) ++ "], location=" ++
      location.description ++ ")"
  | missing => "None"

def descriptions : List Node → List String
  | [] => []
  | node :: rest => description node :: descriptions rest

end

/-- The calls that stand within each other before an object comes to its fields: the one that asks
for the description, a guard against objects that hold themselves, and the method of the object. -/
def objectCalls : Nat := 3

/-- A place is an object, and each of its fields is described by one call. -/
def placeCalls : Nat := objectCalls + 1

mutual

/-- The most calls that stand within each other while a tree is described. The other fields of a
node take no more of them than its place does, and a list takes one for itself. -/
def calls : Node → Nat
  | number .. => objectCalls + placeCalls
  | identifier .. => objectCalls + placeCalls
  | binary _ left right _ => objectCalls + max placeCalls (max (calls left) (calls right))
  | assignment _ value _ => objectCalls + max placeCalls (calls value)
  | root statements _ => objectCalls + max placeCalls (mostCalls statements + 1)
  | missing => 1

def mostCalls : List Node → Nat
  | [] => 0
  | node :: rest => max (calls node) (mostCalls rest)

end

end Node

end Calculator
