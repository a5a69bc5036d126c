import Mathlib.Data.Real.Basic
import Mathlib.Tactic.NormNum
import Telemetry.Scalar

/-!
# Exact scalars

The numbers of an ordered field can be taken as scalars.  Arithmetic and comparisons
are then exact; elementary functions, and texts of numbers, are left open.

Many a property needs less: that differences and comparisons of the numbers at hand
are exact, whatever the numbers are.  This is what reading them as real numbers
means here.
-/

namespace Telemetry

/-- What a scalar offers besides arithmetic and comparisons. -/
structure ElementaryFunctions (K : Type) where
  ofNumeral : Numeral → K
  pi : K
  sqrt : K → K
  sin : K → K
  cos : K → K
  tan : K → K
  acos : K → K
  atan : K → K
  atan2 : K → K → K
  sinh : K → K
  atanh : K → K
  log : K → K
  text : K → String
  plainText : K → String
  fixedText : Nat → K → String

instance {K : Type} [Zero K] : Inhabited (ElementaryFunctions K) where
  default :=
    { ofNumeral := fun _ => 0
      pi := 0
      sqrt := fun _ => 0
      sin := fun _ => 0
      cos := fun _ => 0
      tan := fun _ => 0
      acos := fun _ => 0
      atan := fun _ => 0
      atan2 := fun _ _ => 0
      sinh := fun _ => 0
      atanh := fun _ => 0
      log := fun _ => 0
      text := fun _ => ""
      plainText := fun _ => ""
      fixedText := fun _ _ => "" }

/-- Roots of square numbers are exact, and of a fraction only the numerator is written. -/
def ElementaryFunctions.onWholeNumbers : ElementaryFunctions ℚ :=
  { (default : ElementaryFunctions ℚ) with
    sqrt := fun value =>
      (List.range (value.num.toNat + 1)).findIdx (value.num.toNat ≤ · ^ 2)
    text := fun value => toString value.num }

namespace Scalar

/-- The numbers of an ordered field as scalars. -/
@[reducible]
def exact {K : Type} [Field K] [LinearOrder K] (functions : ElementaryFunctions K) :
    Scalar K where
  ofScientific digits pointsLeft places :=
    if pointsLeft then digits / 10 ^ places else digits * 10 ^ places
  ofNat count := count
  ofNumeral := functions.ofNumeral
  pi := functions.pi
  less first second := decide (first < second)
  atMost first second := decide (first ≤ second)
  same first second := decide (first = second)
  isNegative value := decide (value < 0)
  sqrt := functions.sqrt
  sin := functions.sin
  cos := functions.cos
  tan := functions.tan
  acos := functions.acos
  atan := functions.atan
  atan2 := functions.atan2
  sinh := functions.sinh
  atanh := functions.atanh
  log := functions.log
  text := functions.text
  plainText := functions.plainText
  fixedText := functions.fixedText

section Numerals

variable {K : Type} [Field K] [LinearOrder K] (functions : ElementaryFunctions K)

/-- A decimal numeral stands for the quotient that it says. -/
theorem exact_ofScientific (digits places : ℕ) :
    @OfScientific.ofScientific K (exact functions).toOfScientific digits true places =
      digits / 10 ^ places :=
  rfl

theorem exact_zero :
    @OfScientific.ofScientific K (exact functions).toOfScientific 0 true 1 = 0 := by
  rw [exact_ofScientific]
  simp

theorem exact_one [CharZero K] :
    @OfScientific.ofScientific K (exact functions).toOfScientific 10 true 1 = 1 := by
  rw [exact_ofScientific]
  norm_num

theorem exact_two [CharZero K] :
    @OfScientific.ofScientific K (exact functions).toOfScientific 20 true 1 = 2 := by
  rw [exact_ofScientific]
  norm_num

theorem exact_three [CharZero K] :
    @OfScientific.ofScientific K (exact functions).toOfScientific 30 true 1 = 3 := by
  rw [exact_ofScientific]
  norm_num

theorem exact_less_iff {first second : K} :
    @less K (exact functions) first second = true ↔ first < second :=
  decide_eq_true_iff

theorem exact_atMost_iff {first second : K} :
    @atMost K (exact functions) first second = true ↔ first ≤ second :=
  decide_eq_true_iff

theorem exact_atMost_eq_false_iff {first second : K} :
    @atMost K (exact functions) first second = false ↔ second < first :=
  decide_eq_false_iff_not.trans not_le

theorem exact_clamp_of_mem {low high value : K} (atLeast : low ≤ value) (atMost : value ≤ high) :
    @clamp K (exact functions) low high value = value := by
  unfold clamp
  rw [if_neg, if_neg]
  · rw [exact_less_iff]
    exact not_lt.mpr atMost
  · rw [exact_less_iff]
    exact not_lt.mpr atLeast

theorem exact_lt_clamp {low high value : K} (nonempty : low < high) (above : low < value) :
    low < @clamp K (exact functions) low high value := by
  unfold clamp
  rw [if_neg ((exact_less_iff functions).not.mpr above.not_gt)]
  split
  · exact nonempty
  · exact above

theorem exact_isNegative_iff {value : K} :
    @isNegative K (exact functions) value = true ↔ value < 0 :=
  decide_eq_true_iff

theorem exact_abs [IsStrictOrderedRing K] (value : K) :
    @abs K (exact functions) value = |value| := by
  let := exact functions
  unfold abs
  split
  · rename_i negative
    exact (abs_of_neg ((exact_isNegative_iff functions).mp negative)).symm
  · rename_i notNegative
    rw [exact_isNegative_iff, not_lt] at notNegative
    exact (abs_of_nonneg notNegative).symm

theorem exact_signum [CharZero K] (value : K) :
    @signum K (exact functions) value = if value < 0 then -1 else 1 := by
  let := exact functions
  have isKnown : same value value = true := decide_eq_true rfl
  unfold signum
  rw [isKnown, exact_one]
  simp only [Bool.not_true, Bool.false_eq_true, if_false, exact_isNegative_iff]

end Numerals

/-- Scalars are read as real numbers in such a way that nothing is lost by subtracting
and comparing them. -/
structure IsExact {α : Type} [Scalar α] (value : α → ℝ) : Prop where
  value_zero : value 0.0 = 0
  value_sub : ∀ first second, value (first - second) = value first - value second
  less_iff : ∀ first second, less first second = true ↔ value first < value second
  atMost_iff : ∀ first second, atMost first second = true ↔ value first ≤ value second

theorem isExact_exact {K : Type} [Field K] [LinearOrder K] [IsStrictOrderedRing K]
    (functions : ElementaryFunctions K) (value : K →+* ℝ) (strictMono : StrictMono value) :
    letI := exact functions
    IsExact value :=
  letI := exact functions
  { value_zero := by rw [exact_zero, map_zero]
    value_sub := map_sub value
    less_iff := fun first second => decide_eq_true_iff.trans strictMono.lt_iff_lt.symm
    atMost_iff := fun first second => decide_eq_true_iff.trans strictMono.le_iff_le.symm }

end Scalar

end Telemetry
