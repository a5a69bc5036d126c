import Telemetry.Proofs.Orbit.Plane
import Telemetry.Proofs.Orbit.Derivation

/-!
# Motion along a conic

A particle that its elements place on an ellipse or a hyperbola moves along that curve:
the shape of the orbit that is derived from its motion is the shape the elements give.
-/

namespace Telemetry

namespace Elements

/-- The orbit of a body that is placed around a focus at rest. -/
def orbit {α : Type} [Scalar α] (elements : Elements α) (parameter : α) : Orbit α :=
  .ofRelativeMotion parameter elements.position (elements.velocity parameter)

/-- The elements of an ellipse or a hyperbola, at a place that the curve reaches. -/
structure IsConic (elements : Elements ℝ) : Prop where
  eccentricity_nonneg : 0 ≤ elements.eccentricity
  width_pos : 0 < elements.semiMajorAxis * (1 - elements.eccentricity ^ 2)
  reaches : 0 < 1 + elements.eccentricity * Real.cos elements.trueAnomaly

variable (texts : ElementaryFunctions ℝ) {elements : Elements ℝ}

namespace IsConic

variable (conic : elements.IsConic)
include conic

theorem latusRectum_pos :
    letI := Scalar.real texts
    0 < elements.latusRectum := by
  rw [latusRectum_eq]
  exact conic.width_pos

theorem radius_pos :
    letI := Scalar.real texts
    0 < elements.radius := by
  rw [radius_eq]
  exact div_pos (conic.latusRectum_pos texts) conic.reaches

theorem radius_mul :
    letI := Scalar.real texts
    elements.radius * (1 + elements.eccentricity * Scalar.cos elements.trueAnomaly) =
      elements.latusRectum := by
  rw [radius_eq]
  exact div_mul_cancel₀ _ conic.reaches.ne'

theorem length_position :
    letI := Scalar.real texts
    elements.position.length = elements.radius := by
  let := Scalar.real texts
  have circle := Scalar.real_sin_sq_add_cos_sq texts elements.trueAnomaly
  refine Vec3.length_eq_of_sq texts (conic.radius_pos texts).le ?_
  rw [position_eq_inPlane, inPlane_dot_inPlane]
  linear_combination elements.radius ^ 2 * circle

variable {parameter : ℝ} (attracts : 0 < parameter)
include attracts

theorem speed_pos :
    letI := Scalar.real texts
    0 < elements.speed parameter :=
  Real.sqrt_pos.mpr (div_pos attracts (conic.latusRectum_pos texts))

/-- The circle of the velocity, the width of the orbit and the attraction belong together. -/
theorem speed_sq_mul :
    letI := Scalar.real texts
    elements.speed parameter ^ 2 * elements.latusRectum = parameter := by
  let := Scalar.real texts
  have positive := conic.latusRectum_pos texts
  have squared : elements.speed parameter ^ 2 = parameter / elements.latusRectum :=
    Real.sq_sqrt (div_pos attracts positive).le
  rw [squared]
  exact div_mul_cancel₀ _ positive.ne'

theorem speed_mul :
    letI := Scalar.real texts
    elements.speed parameter * elements.latusRectum =
      Scalar.sqrt (parameter * elements.latusRectum) := by
  let := Scalar.real texts
  have nonneg : 0 ≤ elements.speed parameter * elements.latusRectum :=
    mul_nonneg (conic.speed_pos texts attracts).le (conic.latusRectum_pos texts).le
  have squared : parameter * elements.latusRectum =
      (elements.speed parameter * elements.latusRectum) ^ 2 := by
    linear_combination -elements.latusRectum * conic.speed_sq_mul texts attracts
  rw [squared]
  exact (Real.sqrt_sq nonneg).symm

/-- The square of the speed on a circle through the same place. -/
theorem parameter_div_radius :
    letI := Scalar.real texts
    parameter / elements.radius = elements.speed parameter ^ 2 *
      (1 + elements.eccentricity * Scalar.cos elements.trueAnomaly) := by
  let := Scalar.real texts
  rw [div_eq_iff (conic.radius_pos texts).ne']
  linear_combination
    -conic.speed_sq_mul texts attracts -
      elements.speed parameter ^ 2 * conic.radius_mul texts

/-- The momentum stands upright on the plane. -/
theorem position_cross_velocity :
    letI := Scalar.real texts
    elements.position.cross (elements.velocity parameter) =
      elements.normal * Scalar.sqrt (parameter * elements.latusRectum) := by
  let := Scalar.real texts
  have circle := Scalar.real_sin_sq_add_cos_sq texts elements.trueAnomaly
  rw [position_eq_inPlane, velocity_eq_inPlane, inPlane_cross_inPlane,
    ← conic.speed_mul texts attracts]
  congr 1
  linear_combination
    elements.radius * elements.speed parameter * circle +
      elements.speed parameter * conic.radius_mul texts

theorem semiMajorAxis_orbit :
    letI := Scalar.real texts
    (elements.orbit parameter).semiMajorAxis = elements.semiMajorAxis := by
  let := Scalar.real texts
  have shapeNe : 1 - elements.eccentricity ^ 2 ≠ 0 := right_ne_zero_of_mul conic.width_pos.ne'
  have speedNe : elements.speed parameter ≠ 0 := (conic.speed_pos texts attracts).ne'
  have parameterEq := conic.speed_sq_mul texts attracts
  rw [latusRectum_eq] at parameterEq
  unfold orbit
  rw [Orbit.semiMajorAxis_ofRelativeMotion, conic.length_position,
    conic.parameter_div_radius texts attracts, lengthSquared_velocity, Scalar.exact_two]
  have energy : elements.speed parameter ^ 2 *
        (1 + 2 * elements.eccentricity * Scalar.cos elements.trueAnomaly +
          elements.eccentricity ^ 2) -
      2 * (elements.speed parameter ^ 2 *
        (1 + elements.eccentricity * Scalar.cos elements.trueAnomaly)) =
      -(elements.speed parameter ^ 2 * (1 - elements.eccentricity ^ 2)) := by
    ring
  rw [energy, neg_div_neg_eq, div_eq_iff (mul_ne_zero (pow_ne_zero 2 speedNe) shapeNe)]
  linear_combination -parameterEq

/-- What is left of the motion, once the pull is taken off, points to the pericenter. -/
theorem eccentricityVector_orbit :
    letI := Scalar.real texts
    (elements.orbit parameter).eccentricityVector =
      elements.pericenterAxis * elements.eccentricity := by
  let := Scalar.real texts
  have circle := Scalar.real_sin_sq_add_cos_sq texts elements.trueAnomaly
  unfold orbit
  rw [Orbit.eccentricityVector_ofRelativeMotion, conic.length_position,
    conic.parameter_div_radius texts attracts, lengthSquared_velocity,
    mul_div_cancel₀ _ (conic.radius_pos texts).ne', position_dot_velocity]
  refine Vec3.ext_component fun axis => ?_
  rw [position_eq_inPlane, velocity_eq_inPlane]
  simp only [inPlane, Vec3.component_div, Vec3.component_sub, Vec3.component_mul,
    Vec3.component_add]
  rw [div_eq_iff attracts.ne']
  linear_combination
    elements.pericenterAxis.component axis * elements.eccentricity *
      (elements.radius * elements.speed parameter ^ 2 * circle +
        elements.speed parameter ^ 2 * conic.radius_mul texts +
        conic.speed_sq_mul texts attracts)

theorem eccentricity_orbit :
    letI := Scalar.real texts
    (elements.orbit parameter).eccentricity = elements.eccentricity := by
  let := Scalar.real texts
  change (elements.orbit parameter).eccentricityVector.length = _
  rw [conic.eccentricityVector_orbit texts attracts]
  exact Vec3.length_mul texts conic.eccentricity_nonneg (elements.pericenterAxis_dot_self texts)

end IsConic

end Elements

end Telemetry
