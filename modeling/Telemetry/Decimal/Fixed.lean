import Telemetry.Decimal.Shortest

/-!
# Fixed decimal places

A number rounded to a fixed count of places after the point.  The exact value is
rounded, and a value halfway between two results goes to the even one.
-/

namespace Telemetry

namespace Decimal

/-- The integer nearest to a fraction; the even one of two equally near. -/
def roundHalfEven (numerator denominator : Nat) : Nat :=
  let quotient := numerator / denominator
  match compare (2 * (numerator % denominator)) denominator with
  | .lt => quotient
  | .gt => quotient + 1
  | .eq => quotient + quotient % 2

/-- The number in units of the last of `places` decimal places, rounded. -/
def roundedToPlaces (places : Nat) (number : Binary) : Decimal :=
  { digits := roundHalfEven (number.numerator * Nat.pow 10 places) number.denominator
    exponent := -(places : Int) }

end Decimal

end Telemetry
