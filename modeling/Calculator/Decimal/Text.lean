import Calculator.Decimal.Shortest

/-! # Numbers as text

A number is written by its shortest decimal: with a decimal point where the leading digit stands
near it, otherwise with one digit before the point and a power of ten. A number without a
fractional part keeps one zero behind its point.
-/
namespace Calculator

structure DecimalLayout where
  /-- The least exponent of the leading digit that is written without a power of ten. -/
  leastPlain : Int
  greatestPlain : Int
  exponentDigits : Nat

/-- Plain up to sixteen digits before the point and down to three zeros behind it; exponents have
two digits or more. -/
def plainLayout : DecimalLayout where
  leastPlain := -4
  greatestPlain := 15
  exponentDigits := 2

namespace Decimal

def digits (decimal : Decimal) : List Char :=
  Nat.toDigits 10 decimal.coefficient

def leading (decimal : Decimal) : Int :=
  decimal.exponent + decimal.digits.length - 1

def plain (decimal : Decimal) : List Char :=
  if decimal.leading < 0 then
    '0' :: '.' :: (List.replicate (-decimal.leading - 1).toNat '0' ++ decimal.digits)
  else
    let whole := decimal.leading.toNat + 1
    decimal.digits.take whole ++ List.replicate (whole - decimal.digits.length) '0' ++
      '.' :: (if decimal.digits.length ≤ whole then ['0'] else decimal.digits.drop whole)

def powerOfTen (width : Nat) (exponent : Int) : List Char :=
  let digits := Nat.toDigits 10 exponent.natAbs
  'e' :: (if exponent < 0 then '-' else '+') ::
    (List.replicate (width - digits.length) '0' ++ digits)

def scientific (width : Nat) (decimal : Decimal) : List Char :=
  decimal.digits.take 1 ++
    (if 1 < decimal.digits.length then '.' :: decimal.digits.drop 1 else []) ++
    powerOfTen width decimal.leading

def layOut (layout : DecimalLayout) (decimal : Decimal) : List Char :=
  if layout.leastPlain ≤ decimal.leading ∧ decimal.leading ≤ layout.greatestPlain then decimal.plain
  else decimal.scientific layout.exponentDigits

end Decimal

def Magnitude.text (layout : DecimalLayout) : Magnitude → List Char
  | notANumber => ['n', 'a', 'n']
  | infinite => ['i', 'n', 'f']
  | zero => ['0', '.', '0']
  | positive interval => interval.shortest.layOut layout

/-- The text of a number. Zero keeps its sign, and what is no number has none. -/
def numberText (x : Float) : String :=
  let magnitude := Magnitude.of x
  let sign :=
    match magnitude with
    | .notANumber => []
    | _ => if isNegative x then ['-'] else []
  String.ofList (sign ++ magnitude.text plainLayout)

end Calculator
