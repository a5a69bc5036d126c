/-!
# Decimals

Numbers in decimal notation.  They are exact: what becomes of digits that a
machine number cannot hold is decided where numerals are turned into numbers.
-/

namespace Telemetry

/-- A non-negative decimal number, `digits * 10 ^ exponent`. -/
structure Decimal where
  digits : Nat
  /-- The place of the last digit. -/
  exponent : Int
deriving Repr, DecidableEq

inductive Numeral where
  | finite (isNegative : Bool) (magnitude : Decimal)
  | infinite (isNegative : Bool)
  | notANumber
deriving Repr, DecidableEq

end Telemetry
