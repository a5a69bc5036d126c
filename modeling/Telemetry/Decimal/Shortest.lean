import Telemetry.Decimal.Basic

/-!
# The shortest decimal of a binary number

A machine number is an integer times a power of two.  All decimals that are
nearer to it than to its neighbours stand for it; this file finds the one with
the fewest digits, and among those the one nearest to the number.  Everything is
exact arithmetic on natural numbers.
-/

namespace Telemetry

/-- A non-negative binary number, `significand * 2 ^ exponent`. -/
structure Binary where
  significand : Nat
  /-- The place of the last bit. -/
  exponent : Int
  /-- The next smaller machine number is nearer than the next larger one. -/
  closeBelow : Bool
deriving Repr, DecidableEq

namespace Binary

/-- The magnitude behind the bits of a finite number.  The bits are a sign,
eleven bits of exponent and fifty-two of significand; unless the exponent bits
are zero, the significand has a further leading one. -/
def ofBits (bits : UInt64) : Binary :=
  let fraction := bits.toNat % Nat.pow 2 52
  let scale : Nat := bits.toNat / Nat.pow 2 52 % Nat.pow 2 11
  if scale = 0 then
    { significand := fraction, exponent := -1074, closeBelow := false }
  else
    { significand := Nat.pow 2 52 + fraction
      exponent := (scale : Int) - 1075
      closeBelow := fraction == 0 && scale != 1 }

/-- Numerator of the number as a fraction of natural numbers. -/
def numerator (number : Binary) : Nat :=
  number.significand * Nat.pow 2 number.exponent.toNat

/-- Denominator of the number as a fraction of natural numbers. -/
def denominator (number : Binary) : Nat :=
  Nat.pow 2 (-number.exponent).toNat

/-- How a decimal compares with `quarters / 4` units of the last bit. -/
def compareQuarters (number : Binary) (decimal : Decimal) (quarters : Nat) : Ordering :=
  compare
    (4 * (decimal.digits * Nat.pow 10 decimal.exponent.toNat) * number.denominator)
    (quarters * Nat.pow 2 number.exponent.toNat * Nat.pow 10 (-decimal.exponent).toNat)

/-- A decimal stands for a number when it lies between the midpoints to the
neighbours.  A midpoint itself stands for the neighbour with the even
significand. -/
def isReadBackFrom (number : Binary) (decimal : Decimal) : Bool :=
  let low := 4 * number.significand - if number.closeBelow then 1 else 2
  let high := 4 * number.significand + 2
  let closed := number.significand % 2 == 0
  match number.compareQuarters decimal low, number.compareQuarters decimal high with
  | .gt, .lt => true
  | .eq, .lt | .gt, .eq | .eq, .eq => closed
  | _, _ => false

/-- The least power of ten above a positive number.  The logarithm to the base
ten is estimated from the logarithm to the base two; the estimate is at most
three too small. -/
def decimalMagnitude (number : Binary) : Int :=
  let bits : Int := (number.significand.log2 : Int) + number.exponent
  let estimate := Int.fdiv (bits * 30103) 100000
  let isAbove (power : Int) : Bool :=
    number.numerator * Nat.pow 10 (-power).toNat < number.denominator * Nat.pow 10 power.toNat
  ([0, 1, 2, 3].map (estimate + ·)).find? isAbove |>.getD (estimate + 3)

/-- The decimals with their last digit in a given place between which the number
lies. -/
def neighbours (number : Binary) (place : Int) : Decimal × Decimal :=
  let below :=
    number.numerator * Nat.pow 10 (-place).toNat / (number.denominator * Nat.pow 10 place.toNat)
  (⟨below, place⟩, ⟨below + 1, place⟩)

/-- The nearer of the two decimals that enclose a number with their last digit
in a given place, if it stands for the number.  Of two equally near decimals the
larger one is taken. -/
def candidate? (number : Binary) (place : Int) : Option Decimal :=
  let (below, above) := number.neighbours place
  match number.isReadBackFrom below, number.isReadBackFrom above with
  | true, true =>
      let midpoint : Decimal := ⟨10 * below.digits + 5, place - 1⟩
      match number.compareQuarters midpoint (4 * number.significand) with
      | .gt => some below
      | _ => some above
  | true, false => some below
  | false, true => some above
  | false, false => none

end Binary

namespace Decimal

/-- Move trailing zeros from the digits to the exponent, at most `count`. -/
def stripZeros (count : Nat) (decimal : Decimal) : Decimal :=
  match count with
  | 0 => decimal
  | count + 1 =>
      if decimal.digits % 10 = 0 ∧ decimal.digits ≠ 0 then
        stripZeros count ⟨decimal.digits / 10, decimal.exponent + 1⟩
      else decimal

def exact (number : Binary) : Decimal :=
  { digits := number.numerator * Nat.pow 5 (-number.exponent).toNat
    exponent := -((-number.exponent).toNat : Int) }

/-- The shortest decimal that stands for a binary number.  Seventeen digits
always suffice, so the exact value is never needed in the end. -/
def shortest (number : Binary) : Decimal :=
  if number.significand = 0 then ⟨0, 0⟩
  else
    let magnitude := number.decimalMagnitude
    let found := (List.range 17).findSome? fun (count : Nat) =>
      number.candidate? (magnitude - ((count : Int) + 1))
    (found.getD (exact number)).stripZeros 17

end Decimal

end Telemetry
