import Telemetry.Proofs.Scalar.Exact

/-!
# Numbers that notice a division by zero

A field gives every quotient a value, also the ones by zero.  Here a number may be
undefined instead: a quotient by zero is, and so is all that is computed from an undefined
number, while comparisons with it do not hold.  What is computed with these numbers is
defined only as far as no division by zero has gone into it.

Only divisions are watched.  The elementary functions are taken as total: of a defined
number each of them is a defined number, also where the function itself has no value, as the
tangent has none at a right angle.
-/

namespace Telemetry

namespace Scalar

section Checked

variable {K : Type} [Field K] [LinearOrder K]

/-- The numbers of an ordered field as scalars, with `none` for a number that is undefined.
Division is the only operation that makes one; the elementary functions, `tan` among them,
keep the values that they have everywhere. -/
@[reducible]
def checked (functions : ElementaryFunctions K) : Scalar (Option K) where
  add := Option.map₂ (· + ·)
  sub := Option.map₂ (· - ·)
  mul := Option.map₂ (· * ·)
  div dividend divisor :=
    dividend.bind fun x => divisor.bind fun y => if y = 0 then none else some (x / y)
  neg := Option.map (-·)
  ofScientific digits pointsLeft places :=
    some ((exact functions).ofScientific digits pointsLeft places)
  ofNat count := some count
  ofNumeral numeral := some (functions.ofNumeral numeral)
  pi := some functions.pi
  less first second := (Option.map₂ (fun x y => decide (x < y)) first second).getD false
  atMost first second := (Option.map₂ (fun x y => decide (x ≤ y)) first second).getD false
  same first second := (Option.map₂ (fun x y => decide (x = y)) first second).getD false
  isNegative value := (value.map fun x => decide (x < 0)).getD false
  sqrt := Option.map functions.sqrt
  sin := Option.map functions.sin
  cos := Option.map functions.cos
  tan := Option.map functions.tan
  acos := Option.map functions.acos
  atan := Option.map functions.atan
  atan2 := Option.map₂ functions.atan2
  sinh := Option.map functions.sinh
  atanh := Option.map functions.atanh
  log := Option.map functions.log
  text value := value.elim "undefined" functions.text
  plainText value := value.elim "undefined" functions.plainText
  fixedText places value := value.elim "undefined" (functions.fixedText places)

variable (functions : ElementaryFunctions K)

theorem checked_div {divisor : K} (nonzero : divisor ≠ 0) (dividend : K) :
    letI := checked functions
    (some dividend / some divisor : Option K) = some (dividend / divisor) :=
  if_neg nonzero

theorem checked_div_zero (dividend : Option K) :
    letI := checked functions
    dividend / some 0 = none := by
  cases dividend with
  | none => rfl
  | some _ => exact if_pos rfl

theorem checked_clamp (low high value : K) :
    letI := exact functions
    letI := checked functions
    clamp (some low) (some high) (some value) = some (clamp low high value) := by
  let := exact functions
  let := checked functions
  unfold clamp
  rw [apply_ite some, apply_ite some]
  rfl

theorem checked_abs (value : K) :
    letI := exact functions
    letI := checked functions
    abs (some value) = some (abs value) := by
  let := exact functions
  let := checked functions
  unfold abs
  rw [apply_ite some]
  rfl

theorem checked_signum (value : K) :
    letI := exact functions
    letI := checked functions
    signum (some value) = some (signum value) := by
  let := exact functions
  let := checked functions
  unfold signum
  rw [apply_ite some, apply_ite some]
  rfl

end Checked

end Scalar

end Telemetry
