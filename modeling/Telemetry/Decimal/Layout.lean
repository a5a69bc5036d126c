import Telemetry.Decimal.Shortest

/-!
# Decimal layout

How the digits of a number are laid out as text: with the point in its place, or
with an exponent.  The decisions that differ between report lines and messages
are collected in one record.
-/

namespace Telemetry

structure NumberFormat where
  /-- Numbers whose leading digit has a place in this range, the second end
  excluded, are written without exponent.  Without a range, all are. -/
  positional? : Option (Int × Int)
  /-- Whole numbers are written with a point and a zero. -/
  keepsPoint : Bool
deriving Repr, DecidableEq

namespace Decimal

/-- The digits of a decimal, most significant first. -/
def digitChars (decimal : Decimal) : List Char :=
  Nat.toDigits 10 decimal.digits

def leadingPlace (decimal : Decimal) : Int :=
  decimal.exponent + (decimal.digitChars.length : Int) - 1

def positionalChars (keepsPoint : Bool) (decimal : Decimal) : List Char :=
  let digits := decimal.digitChars
  if decimal.exponent ≥ 0 then
    digits ++ List.replicate decimal.exponent.toNat '0' ++
      if keepsPoint then ['.', '0'] else []
  else
    let places := (-decimal.exponent).toNat
    let padded := List.replicate (places + 1 - digits.length) '0' ++ digits
    padded.take (padded.length - places) ++ '.' :: padded.drop (padded.length - places)

/-- The digits with the point behind the first one, and the exponent. -/
def scientificChars (decimal : Decimal) : List Char :=
  let mantissa :=
    match decimal.digitChars with
    | first :: second :: rest => first :: '.' :: second :: rest
    | digits => digits
  let place := decimal.leadingPlace
  let sign := if place < 0 then ['-'] else []
  mantissa ++ 'e' :: (sign ++ Nat.toDigits 10 place.natAbs)

end Decimal

namespace NumberFormat

def chars (format : NumberFormat) (decimal : Decimal) : List Char :=
  let isPositional :=
    match format.positional? with
    | none => true
    | some (first, last) =>
        decimal.digits == 0 ||
          (first ≤ decimal.leadingPlace && decimal.leadingPlace < last)
  if isPositional then decimal.positionalChars format.keepsPoint
  else decimal.scientificChars

end NumberFormat

/-- The digits of the number behind the bits of a machine number, by a function
of its magnitude; infinities and values that are not numbers have names. -/
def textOfBits (magnitudeChars : Binary → List Char) (bits : UInt64) : String :=
  let isNegative := bits.toNat / Nat.pow 2 63 % 2 == 1
  let isSpecial := bits.toNat / Nat.pow 2 52 % Nat.pow 2 11 == 2047
  let isZeroFraction := bits.toNat % Nat.pow 2 52 == 0
  if isSpecial && !isZeroFraction then "NaN"
  else
    let magnitude :=
      if isSpecial then ['i', 'n', 'f'] else magnitudeChars (Binary.ofBits bits)
    String.ofList (if isNegative then '-' :: magnitude else magnitude)

end Telemetry
