/-! # The shortest decimal of a number

A floating point number of 64 bits stands for all reals that round to it. Its decimal is the one
with the fewest digits among them, and of those the nearest to the number itself; of two equally
near the one with an even last digit. The search runs over decimal grids from coarse to fine, in
whole numbers only.
-/
namespace Calculator

/-- The number `coefficient * 10 ^ exponent`. -/
structure Decimal where
  coefficient : Nat
  exponent : Int
  deriving DecidableEq

/-- The reals that round to one positive number. Bounds and number are whole multiples of
`2 ^ exponent`. -/
structure RoundingInterval where
  lower : Nat
  value : Nat
  upper : Nat
  exponent : Int
  /-- Whether the two bounds round to the number as well. -/
  closed : Bool
  lower_lt_value : lower < value
  value_lt_upper : value < upper

namespace RoundingInterval

/-- The reals that round to `mantissa * 2 ^ exponent`. The distance to the number below is half
the distance to the number above when the mantissa is the least of its binade. -/
def around (mantissa : Nat) (exponent : Int) (leastOfBinade : Bool) (h : 0 < mantissa) :
    RoundingInterval where
  lower := 4 * mantissa - (if leastOfBinade then 1 else 2)
  value := 4 * mantissa
  upper := 4 * mantissa + 2
  exponent := exponent - 2
  closed := mantissa % 2 == 0
  lower_lt_value := by split <;> omega
  value_lt_upper := by omega

/-- With `scale.1 / scale.2` a multiple of `2 ^ exponent` is counted in steps of `10 ^ k`. -/
def scale (interval : RoundingInterval) (k : Int) : Nat × Nat :=
  (Nat.pow 2 interval.exponent.toNat * Nat.pow 10 (-k).toNat,
    Nat.pow 2 (-interval.exponent).toNat * Nat.pow 10 k.toNat)

def holds (interval : RoundingInterval) (k : Int) (c : Nat) : Bool :=
  let (up, down) := interval.scale k
  if interval.closed then
    decide (interval.lower * up ≤ c * down) && decide (c * down ≤ interval.upper * up)
  else decide (interval.lower * up < c * down) && decide (c * down < interval.upper * up)

def floor (interval : RoundingInterval) (k : Int) : Nat :=
  let (up, down) := interval.scale k
  interval.value * up / down

def nearest? (interval : RoundingInterval) (k : Int) : Option Nat :=
  let (up, down) := interval.scale k
  let below := interval.floor k
  let above := below + 1
  match interval.holds k below, interval.holds k above with
  | true, true =>
    let toBelow := interval.value * up - below * down
    let toAbove := above * down - interval.value * up
    if toBelow < toAbove ∨ toBelow = toAbove ∧ below % 2 = 0 then some below else some above
  | true, false => some below
  | false, true => some above
  | false, false => none

/-- The nearest decimal on the first of several grids that holds one, each ten times finer than
the one before; on the last of them whether or not it rounds to the number. -/
def search (interval : RoundingInterval) : (grids : Nat) → (k : Int) → Decimal
  | 0, k => ⟨interval.floor k, k⟩
  | grids + 1, k =>
    match interval.nearest? k with
    | some c => ⟨c, k⟩
    | none => interval.search grids (k - 1)

/-- An exponent of ten above the number: `2 ^ b ≤ 10 ^ (0.30103 * b + 1)`, with the first factor a
little more than the logarithm of two. -/
def startExponent (interval : RoundingInterval) : Int :=
  (interval.value.log2 + 1 + interval.exponent) * 30103 / 100000 + 1

/-- The shortest decimal that rounds to the number. Seventeen digits always suffice. -/
def shortest (interval : RoundingInterval) : Decimal :=
  interval.search 19 interval.startExponent

end RoundingInterval

inductive Magnitude where
  | notANumber
  | infinite
  | zero
  /-- A positive number, by the reals that round to it. -/
  | positive (interval : RoundingInterval)

def signWeight : Nat := 0x8000000000000000

def exponentWeight : Nat := 0x10000000000000

def reservedExponent : Nat := 0x7FF

def isNegative (x : Float) : Bool :=
  decide (signWeight ≤ x.toBits.toNat)

def Magnitude.of (x : Float) : Magnitude :=
  let exponent : Nat := x.toBits.toNat / exponentWeight % (reservedExponent + 1)
  let fraction : Nat := x.toBits.toNat % exponentWeight
  if exponent = reservedExponent then
    if fraction = 0 then .infinite else .notANumber
  else if exponent = 0 then
    if h : fraction = 0 then .zero
    else .positive (.around fraction (-1074) false (Nat.pos_of_ne_zero h))
  else
    .positive (.around (exponentWeight + fraction) ((exponent : Int) - 1075)
      (fraction == 0 && decide (1 < exponent)) (Nat.add_pos_left (by decide) fraction))

end Calculator
