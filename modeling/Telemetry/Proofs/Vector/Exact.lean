import Mathlib.Tactic.LinearCombination
import Mathlib.Tactic.Positivity
import Mathlib.Tactic.Ring
import Telemetry.Proofs.Scalar.Real
import Telemetry.Proofs.Vector

/-!
# Vectors over exact numbers

Over exact numbers the products of vectors obey the laws of geometry.  The outer product
of two vectors stands upright on both, and the two products share out the lengths among
themselves: the more of them goes into the one, the less is left for the other.  Over the
real numbers this bounds the inner product, and the bound is met only in one line.
-/

namespace Telemetry

namespace Vec3

section Laws

variable {K : Type} [Field K] [LinearOrder K] (functions : ElementaryFunctions K)

/-! ## Differences -/

section Differences

variable (first second shift : Vec3 K)

theorem zero_eq :
    letI := Scalar.exact functions
    (zero : Vec3 K) = ⟨0, 0, 0⟩ := by
  unfold zero
  rw [Scalar.exact_zero]

theorem sub_zero_eq :
    letI := Scalar.exact functions
    first - zero = first := by
  let := Scalar.exact functions
  refine ext_component fun axis => ?_
  rw [component_sub, component_zero, Scalar.exact_zero, sub_zero]

theorem self_sub_self :
    letI := Scalar.exact functions
    first - first = zero := by
  let := Scalar.exact functions
  refine ext_component fun axis => ?_
  rw [component_sub, component_zero, Scalar.exact_zero, sub_self]

theorem sub_sub_sub :
    letI := Scalar.exact functions
    first - shift - (second - shift) = first - second := by
  let := Scalar.exact functions
  refine ext_component fun axis => ?_
  simp only [component_sub]
  exact sub_sub_sub_cancel_right _ _ _

end Differences

/-! ## Products -/

section Products

variable (first second : Vec3 K) (a b c d : K)

theorem dot_combination :
    letI := Scalar.exact functions
    (first * a + second * b).dot (first * c + second * d) =
      first.dot first * (a * c) + first.dot second * (a * d + b * c) +
        second.dot second * (b * d) := by
  let := Scalar.exact functions
  change (first.x * a + second.x * b) * (first.x * c + second.x * d) +
      (first.y * a + second.y * b) * (first.y * c + second.y * d) +
      (first.z * a + second.z * b) * (first.z * c + second.z * d) = _
  unfold dot
  ring

theorem cross_combination :
    letI := Scalar.exact functions
    (first * a + second * b).cross (first * c + second * d) =
      first.cross second * (a * d - b * c) := by
  let := Scalar.exact functions
  have component (u v u' v' : K) :
      (u * a + v * b) * (u' * c + v' * d) - (u' * a + v' * b) * (u * c + v * d) =
        (u * v' - u' * v) * (a * d - b * c) := by
    ring
  refine ext_component fun axis => ?_
  cases axis <;> exact component ..

theorem dot_mul_mul :
    letI := Scalar.exact functions
    (first * a).dot (second * b) = first.dot second * (a * b) := by
  let := Scalar.exact functions
  change first.x * a * (second.x * b) + first.y * a * (second.y * b) +
    first.z * a * (second.z * b) = _
  unfold dot
  ring

theorem dot_comm :
    letI := Scalar.exact functions
    first.dot second = second.dot first := by
  let := Scalar.exact functions
  unfold dot
  ring

theorem dot_combination_right (third : Vec3 K) :
    letI := Scalar.exact functions
    third.dot (first * a + second * b) = third.dot first * a + third.dot second * b := by
  let := Scalar.exact functions
  change third.x * (first.x * a + second.x * b) + third.y * (first.y * a + second.y * b) +
    third.z * (first.z * a + second.z * b) = _
  unfold dot
  ring

theorem cross_dot_first :
    letI := Scalar.exact functions
    (first.cross second).dot first = 0 := by
  let := Scalar.exact functions
  unfold dot cross
  ring

theorem cross_dot_second :
    letI := Scalar.exact functions
    (first.cross second).dot second = 0 := by
  let := Scalar.exact functions
  unfold dot cross
  ring

theorem combination_cross_first :
    letI := Scalar.exact functions
    (first * a + second * b).cross first = first.cross second * (-b) := by
  let := Scalar.exact functions
  have component (u v u' v' : K) :
      (u * a + v * b) * u' - (u' * a + v' * b) * u = (u * v' - u' * v) * -b := by
    ring
  refine ext_component fun axis => ?_
  cases axis <;> exact component ..

/-- What the inner product leaves of the lengths goes into the outer product. -/
theorem cross_dot_cross :
    letI := Scalar.exact functions
    (first.cross second).dot (first.cross second) =
      first.dot first * second.dot second - first.dot second ^ 2 := by
  let := Scalar.exact functions
  unfold dot cross
  ring

end Products

/-! ## Squares of lengths -/

section Squares

variable [IsStrictOrderedRing K] {vector : Vec3 K}

theorem dot_self_nonneg (vector : Vec3 K) :
    letI := Scalar.exact functions
    0 ≤ vector.dot vector :=
  add_nonneg (add_nonneg (mul_self_nonneg _) (mul_self_nonneg _)) (mul_self_nonneg _)

theorem dot_self_eq_zero_iff :
    letI := Scalar.exact functions
    vector.dot vector = 0 ↔ vector = ⟨0, 0, 0⟩ := by
  let := Scalar.exact functions
  constructor
  · intro noLength
    obtain ⟨x, y, z⟩ := vector
    obtain ⟨plane, up⟩ := (add_eq_zero_iff_of_nonneg
      (add_nonneg (mul_self_nonneg x) (mul_self_nonneg y)) (mul_self_nonneg z)).mp noLength
    obtain ⟨along, across⟩ :=
      (add_eq_zero_iff_of_nonneg (mul_self_nonneg x) (mul_self_nonneg y)).mp plane
    rw [mul_self_eq_zero.mp along, mul_self_eq_zero.mp across, mul_self_eq_zero.mp up]
  · rintro rfl
    unfold dot
    simp

end Squares

end Laws

/-! ## Lengths -/

section Lengths

variable (texts : ElementaryFunctions ℝ)

theorem length_sq (vector : Vec3 ℝ) :
    letI := Scalar.real texts
    vector.length ^ 2 = vector.dot vector :=
  Real.sq_sqrt (dot_self_nonneg _ vector)

theorem length_nonneg (vector : Vec3 ℝ) :
    letI := Scalar.real texts
    0 ≤ vector.length :=
  Real.sqrt_nonneg _

theorem length_eq_of_sq {vector : Vec3 ℝ} {length : ℝ} (nonneg : 0 ≤ length) :
    letI := Scalar.real texts
    vector.dot vector = length ^ 2 → vector.length = length := by
  intro squareEq
  unfold Vec3.length lengthSquared
  rw [squareEq]
  exact Real.sqrt_sq nonneg

theorem length_on_axis (coordinate : ℝ) :
    letI := Scalar.real texts
    (⟨coordinate, 0, 0⟩ : Vec3 ℝ).length = |coordinate| := by
  refine length_eq_of_sq texts (abs_nonneg coordinate) ?_
  unfold dot
  rw [sq_abs, mul_zero, add_zero, add_zero, sq]

theorem length_mul {direction : Vec3 ℝ} {factor : ℝ} (nonneg : 0 ≤ factor) :
    letI := Scalar.real texts
    direction.dot direction = 1 → (direction * factor).length = factor := by
  intro unit
  refine length_eq_of_sq texts nonneg ?_
  rw [dot_mul_mul, unit, one_mul, sq]

/-- Two vectors of which one points against the other lie in one line. -/
theorem neg_length_mul_length_lt_dot {first second : Vec3 ℝ} :
    letI := Scalar.real texts
    0 < (first.cross second).dot (first.cross second) →
      -(first.length * second.length) < first.dot second := by
  let := Scalar.real texts
  intro notInLine
  rw [cross_dot_cross, sub_pos, ← length_sq, ← length_sq, ← mul_pow] at notInLine
  have nonneg : 0 ≤ first.length * second.length :=
    mul_nonneg (length_nonneg texts first) (length_nonneg texts second)
  exact neg_lt_of_abs_lt (abs_lt_of_sq_lt_sq notInLine nonneg)

theorem neg_length_lt_x {vector : Vec3 ℝ} :
    letI := Scalar.real texts
    vector.y ≠ 0 → -vector.length < vector.x := by
  let := Scalar.real texts
  intro aside
  have square : vector.length ^ 2 = vector.x ^ 2 + vector.y ^ 2 + vector.z ^ 2 := by
    rw [length_sq]
    unfold dot
    ring
  have shorter : vector.x ^ 2 < vector.length ^ 2 := by
    rw [square, add_assoc]
    exact lt_add_of_pos_right _ (by positivity)
  exact neg_lt_of_abs_lt (abs_lt_of_sq_lt_sq shorter (length_nonneg texts vector))

end Lengths

end Vec3

end Telemetry
