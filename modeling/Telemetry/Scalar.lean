import Telemetry.Decimal.Basic

/-!
# Scalars

Positions, masses, times and intervals are scalars.  This file fixes the
operations the library needs of them, so that every computation is written once
and runs on any type that supplies them: on machine numbers when a report is
rendered, and on exact numbers when its mathematics is studied.

The operations of `Scalar` are independent of one another; the functions below
the class are the ones that can be expressed through them.
-/

namespace Telemetry

/-- The arithmetic, the comparisons, the elementary functions and the text of a
number. -/
class Scalar (α : Type) extends Add α, Sub α, Mul α, Div α, Neg α, OfScientific α where
  ofNat : (count : Nat) → α
  ofNumeral : Numeral → α
  pi : α
  /-- `less x y` holds when `x` is smaller than `y`. -/
  less : α → α → Bool
  /-- `atMost x y` holds when `x` is smaller than `y` or equal to it. -/
  atMost : α → α → Bool
  /-- Equality of values; a value that is not a number equals nothing. -/
  same : α → α → Bool
  isNegative : α → Bool
  sqrt : α → α
  sin : α → α
  cos : α → α
  tan : α → α
  /-- The angle in `[0, π]` with a given cosine. -/
  acos : α → α
  /-- The angle in `[-π/2, π/2]` with a given tangent. -/
  atan : α → α
  /-- `atan2 y x` is the angle of the point `(x, y)`, in `[-π, π]`. -/
  atan2 : α → α → α
  sinh : α → α
  atanh : α → α
  log : α → α
  text : α → String
  /-- The text of a number in messages, where whole numbers have no point. -/
  plainText : α → String
  fixedText : (places : Nat) → α → String

namespace Scalar

variable {α : Type} [Scalar α]

def abs (value : α) : α :=
  if isNegative value then -value else value

/-- The sign of a value as `1` or `-1`.  A value that is not a number has no
sign and is returned as it is. -/
def signum (value : α) : α :=
  if !same value value then value
  else if isNegative value then -1.0
  else 1.0

/-- The value, moved into `[low, high]` when it lies outside. -/
def clamp (low high value : α) : α :=
  if less value low then low
  else if less high value then high
  else value

/-- The sum of a list from left to right.  It starts from negative zero, so that
summing a single value returns that value with its sign. -/
def sum (values : List α) : α :=
  values.foldl (· + ·) (-0.0)

end Scalar

end Telemetry
