import Telemetry.Proofs.Orbit.Checked
import Telemetry.Proofs.Orbit.Kepler

/-!
# The divisors of a derivation

The derivation of an orbit refuses a reference without mass and a particle in its place, and
it changes branches for circular orbits and for those in the reference plane.  For a body
that is pulled towards the reference this keeps all divisors away from zero, with two
exceptions.  Motion with just the speed to get away is along a parabola, which has no axis
and no period, and its mean anomaly is Barker's.  Motion straight towards the reference or
away from it has no plane that could be inclined.

All this is about divisions.  The elementary functions are taken as total, and nothing is
said about the mean anomaly at a true anomaly of π or -π beyond its being defined: the
tangent of half of it has no value in geometry.
-/

namespace Telemetry

namespace Orbit

section Motion

variable {α : Type} [Scalar α]

/-- The speed just suffices to get away. -/
def IsParabolic (parameter : α) (position velocity : Vec3 α) : Prop :=
  velocity.lengthSquared = 2.0 * (parameter / position.length)

/-- The particle moves straight towards the reference or away from it, or not at all. -/
def IsRadial (position velocity : Vec3 α) : Prop :=
  ∃ factor : α, velocity = position * factor

end Motion

section Divisors

variable (texts : ElementaryFunctions ℝ) {parameter : ℝ} {position velocity : Vec3 ℝ}

/-- Motion that leaves the line to the reference turns around it. -/
theorem momentumLength_ne_zero :
    letI := Scalar.real texts
    position.length ≠ 0 → ¬ IsRadial position velocity →
      (ofRelativeMotion parameter position velocity).angularMomentumLength ≠ 0 := by
  let := Scalar.real texts
  intro apart turns noMomentum
  have squareNe : position.dot position ≠ 0 := by
    rw [← Vec3.length_sq]
    exact pow_ne_zero 2 apart
  have balance : position.dot position * velocity.dot velocity = position.dot velocity ^ 2 := by
    rw [← sub_eq_zero, ← Vec3.cross_dot_cross, ← Vec3.length_sq]
    exact sq_eq_zero_iff.mpr noMomentum
  -- The part of the velocity that stands upright on the position has no length.
  let factor := position.dot velocity / position.dot position
  have noRest : (position * (-factor) + velocity * (1 : ℝ)).dot
      (position * (-factor) + velocity * (1 : ℝ)) = 0 := by
    rw [Vec3.dot_combination]
    simp only [factor]
    field_simp
    linear_combination balance
  refine turns ⟨factor, Vec3.ext_component fun axis => ?_⟩
  have restEq : (position * (-factor) + velocity * (1 : ℝ)).component axis = 0 := by
    rw [(Vec3.dot_self_eq_zero_iff _).mp noRest]
    cases axis <;> rfl
  rw [Vec3.component_add, Vec3.component_mul, Vec3.component_mul] at restEq
  rw [Vec3.component_mul]
  linear_combination restEq

theorem semiMajorAxis_ne_zero :
    letI := Scalar.real texts
    parameter ≠ 0 → ¬ IsParabolic parameter position velocity →
      (ofRelativeMotion parameter position velocity).semiMajorAxis ≠ 0 := by
  let := Scalar.real texts
  intro attracts bounded
  rw [semiMajorAxis_ofRelativeMotion]
  exact div_ne_zero (neg_ne_zero.mpr attracts) (sub_ne_zero.mpr bounded)

theorem meanMotion_ne_zero {orbit : Orbit ℝ}
    (orbitEq : @ofRelativeMotion ℝ (Scalar.real texts) parameter position velocity = orbit)
    (attracts : parameter ≠ 0) (axisNe : orbit.semiMajorAxis ≠ 0) : orbit.meanMotion ≠ 0 := by
  let := Scalar.real texts
  rw [meanMotion_ofRelativeMotion _ _ _ orbit orbitEq, Scalar.exact_signum, Scalar.exact_abs]
  have rootNe : Real.sqrt |parameter / (orbit.semiMajorAxis * orbit.semiMajorAxis *
      orbit.semiMajorAxis)| ≠ 0 :=
    (Real.sqrt_pos.mpr (abs_pos.mpr (div_ne_zero attracts
      (mul_ne_zero (mul_ne_zero axisNe axisNe) axisNe)))).ne'
  refine mul_ne_zero ?_ rootNe
  split <;> norm_num

/-- A parabola is the conic of eccentricity one. -/
theorem eccentricity_of_parabolic :
    letI := Scalar.real texts
    position.length ≠ 0 → parameter ≠ 0 → IsParabolic parameter position velocity →
      (ofRelativeMotion parameter position velocity).eccentricity = 1 := by
  let := Scalar.real texts
  intro apart attracts parabolic
  rw [IsParabolic, Scalar.exact_two] at parabolic
  have square : (ofRelativeMotion parameter position velocity).eccentricity ^ 2 = 1 := by
    rw [eccentricity_sq texts apart attracts, parabolic, sub_self, mul_zero, zero_div, add_zero]
  exact (pow_eq_one_iff_of_nonneg (Real.sqrt_nonneg _) two_ne_zero).mp square

/-- Barker's equation, with the tangent taken as total. -/
theorem meanOfTrueAnomaly_one (trueAnomaly : ℝ) :
    letI := Scalar.real texts
    meanOfTrueAnomaly trueAnomaly 1 =
      Real.tan (trueAnomaly / 2) + Real.tan (trueAnomaly / 2) ^ 3 / 3 := by
  let := Scalar.real texts
  have tinyNonneg : (0 : ℝ) ≤ tiny := tiny_nonneg
  have notEllipse : ¬ Scalar.less 1 (1.0 - tiny : ℝ) = true := by
    rw [Scalar.exact_less_iff, Scalar.exact_one, not_lt]
    exact sub_le_self 1 tinyNonneg
  have notHyperbola : ¬ Scalar.less (1.0 + tiny : ℝ) 1 = true := by
    rw [Scalar.exact_less_iff, Scalar.exact_one, not_lt]
    exact le_add_of_nonneg_right tinyNonneg
  unfold meanOfTrueAnomaly
  dsimp only
  rw [if_neg notEllipse, if_neg notHyperbola, Scalar.exact_two, Scalar.exact_three,
    pow_three']
  rfl

end Divisors

/-! ## A successful derivation -/

/-- The divisors that the derivation of an orbit comes to are not zero: some always, some on
the branches that use them, some except on a parabola or in a line to the reference. -/
structure DividesByNonzero (texts : ElementaryFunctions ℝ) (parameter : ℝ)
    (position velocity : Vec3 ℝ) (orbit : Orbit ℝ) : Prop where
  distance_ne : orbit.distance ≠ 0
  parameter_ne : parameter ≠ 0
  node_ne : letI := Scalar.real texts
    tiny < orbit.node.length → orbit.node.length ≠ 0
  node_mul_eccentricity_ne : letI := Scalar.real texts
    tiny < orbit.node.length → tiny < orbit.eccentricity →
      orbit.node.length * orbit.eccentricity ≠ 0
  eccentricity_mul_distance_ne : letI := Scalar.real texts
    tiny < orbit.eccentricity → orbit.eccentricity * orbit.distance ≠ 0
  node_mul_distance_ne : letI := Scalar.real texts
    tiny < orbit.node.length → orbit.node.length * orbit.distance ≠ 0
  energy_ne : letI := Scalar.real texts
    ¬ IsParabolic parameter position velocity →
      velocity.lengthSquared - 2 * (parameter / orbit.distance) ≠ 0
  axis_cubed_ne : letI := Scalar.real texts
    ¬ IsParabolic parameter position velocity → orbit.semiMajorAxis ^ 3 ≠ 0
  meanMotion_ne : letI := Scalar.real texts
    ¬ IsParabolic parameter position velocity → orbit.meanMotion ≠ 0
  momentum_ne : letI := Scalar.real texts
    ¬ IsRadial position velocity → orbit.angularMomentumLength ≠ 0

/-- Over numbers that notice a division by zero, the elements of an orbit are defined
except for those that a parabola does not have, and perhaps the inclination of a line.  The
elementary functions are total there and make nothing undefined. -/
structure IsDefined (texts : ElementaryFunctions ℝ) (parameter : ℝ)
    (position velocity : Vec3 ℝ) (orbit : Orbit ℝ) (checked : Orbit (Option ℝ)) : Prop where
  eq_map : checked =
    { orbit.map some with
      semiMajorAxis := checked.semiMajorAxis
      inclination := checked.inclination
      meanMotion := checked.meanMotion
      period := checked.period }
  of_not_parabolic : letI := Scalar.real texts
    ¬ IsParabolic parameter position velocity →
      checked.semiMajorAxis = some orbit.semiMajorAxis ∧
        checked.meanMotion = some orbit.meanMotion ∧ checked.period = some orbit.period
  of_parabolic : letI := Scalar.real texts
    IsParabolic parameter position velocity →
      checked.semiMajorAxis = none ∧ checked.meanMotion = none ∧ checked.period = none
  of_not_radial : letI := Scalar.real texts
    ¬ IsRadial position velocity → checked.inclination = some orbit.inclination

section Derived

variable {texts : ElementaryFunctions ℝ} {parameter : ℝ} {position velocity : Vec3 ℝ}
  {orbit : Orbit ℝ} {checked : Orbit (Option ℝ)}
  (alike : DerivedAlike texts parameter position velocity orbit checked)
include alike

theorem DerivedAlike.dividesByNonzero :
    DividesByNonzero texts parameter position velocity orbit := by
  let := Scalar.real texts
  have far (length : ℝ) (notTiny : tiny < length) : length ≠ 0 :=
    (tiny_nonneg.trans_lt notTiny).ne'
  have axisNe (bounded : ¬ IsParabolic parameter position velocity) :
      orbit.semiMajorAxis ≠ 0 :=
    alike.orbit_eq ▸ semiMajorAxis_ne_zero texts alike.attracts bounded
  constructor
  case distance_ne => exact alike.apart
  case parameter_ne => exact alike.attracts
  case node_ne => exact far _
  case node_mul_eccentricity_ne =>
    intro inclined eccentric
    exact mul_ne_zero (far _ inclined) (far _ eccentric)
  case eccentricity_mul_distance_ne =>
    intro eccentric
    exact mul_ne_zero (far _ eccentric) alike.apart
  case node_mul_distance_ne =>
    intro inclined
    exact mul_ne_zero (far _ inclined) alike.apart
  case energy_ne =>
    intro bounded
    rw [IsParabolic, Scalar.exact_two] at bounded
    rw [← alike.orbit_eq]
    exact sub_ne_zero.mpr bounded
  case axis_cubed_ne =>
    intro bounded
    exact pow_ne_zero 3 (axisNe bounded)
  case meanMotion_ne =>
    intro bounded
    exact meanMotion_ne_zero texts alike.orbit_eq alike.attracts (axisNe bounded)
  case momentum_ne =>
    intro turns
    have apart := alike.apart
    rw [← alike.orbit_eq] at apart ⊢
    exact momentumLength_ne_zero texts apart turns

theorem DerivedAlike.isDefined :
    IsDefined texts parameter position velocity orbit checked := by
  let := Scalar.real texts
  have divides := alike.dividesByNonzero
  constructor
  case eq_map => exact alike.eq_map
  case of_not_parabolic =>
    intro bounded
    have energyNe : velocity.lengthSquared - 2.0 * (parameter / orbit.distance) ≠ 0 := by
      rw [Scalar.exact_two]
      exact divides.energy_ne bounded
    have axisEq := alike.semiMajorAxis_eq energyNe
    have motionEq := alike.meanMotion_eq axisEq
      (fun noAxis => divides.axis_cubed_ne bounded (by rw [noAxis]; norm_num))
    exact ⟨axisEq, motionEq, alike.period_eq motionEq (divides.meanMotion_ne bounded)⟩
  case of_parabolic =>
    intro parabolic
    have noAxis : checked.semiMajorAxis = none := by
      refine alike.semiMajorAxis_eq_none (sub_eq_zero.mpr ?_)
      rw [← alike.orbit_eq]
      exact parabolic
    have noMotion := alike.meanMotion_eq_none noAxis
    exact ⟨noAxis, noMotion, alike.period_eq_none noMotion⟩
  case of_not_radial =>
    intro turns
    exact alike.inclination_eq (divides.momentum_ne turns)

end Derived

end Orbit

/-- A successful derivation has its divisors away from zero, except that a parabola has no
axis and motion in a line to the reference need not have a plane.  A parabola is told by
its eccentricity, and its mean anomaly is Barker's, with the tangent taken as total. -/
theorem Orbit.derive_divides_by_nonzero (texts : ElementaryFunctions ℝ) {gravity : ℝ}
    {particle reference : Particle ℝ} (pulls : 0 < gravity) (hasMass : 0 ≤ particle.mass) :
    letI := Scalar.real texts
    let parameter := gravity * (particle.mass + reference.mass)
    let position := particle.position - reference.position
    let velocity := particle.velocity - reference.velocity
    ∀ orbit, derive gravity particle reference = .ok orbit →
      DividesByNonzero texts parameter position velocity orbit ∧
      (∃ checked, @derive _ (Scalar.checked (.real texts)) (some gravity) (particle.map some)
          (reference.map some) = .ok checked ∧
        IsDefined texts parameter position velocity orbit checked) ∧
      (IsParabolic parameter position velocity →
        orbit.eccentricity = 1 ∧
          orbit.meanAnomaly = Real.tan (orbit.trueAnomaly / 2) +
            Real.tan (orbit.trueAnomaly / 2) ^ 3 / 3) := by
  let := Scalar.real texts
  intro parameter position velocity orbit derived
  obtain ⟨weighs, far, orbitEq⟩ := derive_eq_ok_iff.mp derived
  have attracts : parameter ≠ 0 :=
    (mul_pos pulls (add_pos_of_nonneg_of_pos hasMass (pos_of_not_tiny weighs))).ne'
  obtain ⟨checked, derivedChecked, alike⟩ := exists_derivedAlike attracts derived
  refine ⟨alike.dividesByNonzero, ⟨checked, derivedChecked, alike.isDefined⟩, ?_⟩
  intro parabolic
  have eccentricityEq : orbit.eccentricity = 1 := by
    rw [← orbitEq]
    exact eccentricity_of_parabolic texts (pos_of_not_tiny far).ne' attracts parabolic
  refine ⟨eccentricityEq, ?_⟩
  rw [meanAnomaly_ofRelativeMotion _ _ _ orbit orbitEq, eccentricityEq]
  exact meanOfTrueAnomaly_one texts orbit.trueAnomaly

namespace Orbit

theorem exists_derivedAlike_satellite {mass central : ℝ} {position : Vec3 ℝ}
    (velocity : Vec3 ℝ) (hasMass : 1 ≤ central) (attracts : 1 * (mass + central) ≠ 0) :
    letI := Scalar.real default
    1 ≤ position.length →
      ∃ checked, @derive _ (Scalar.checked (.real default)) (some 1)
          ((Particle.satellite mass position velocity).map some)
          ((Particle.center central).map some) = .ok checked ∧
        DerivedAlike default (1 * (mass + central)) position velocity
          (ofRelativeMotion (1 * (mass + central)) position velocity) checked := by
  let := Scalar.real default
  intro far
  obtain ⟨positionEq, velocityEq⟩ := Particle.motion_satellite mass central position velocity
  obtain ⟨checked, derivedChecked, alike⟩ :=
    exists_derivedAlike attracts (derive_satellite 1 mass velocity hasMass far)
  rw [positionEq, velocityEq] at alike
  exact ⟨checked, derivedChecked, alike⟩

/-- On a circle around a body at rest all divisors are known to differ from zero. -/
theorem derive_divides_by_nonzero_of_circle :
    letI := Scalar.real default
    0 < (1 : ℝ) ∧ 0 ≤ (Particle.satellite 0 ⟨1, 0, 0⟩ ⟨0, 1, 0⟩).mass ∧
      ∃ orbit checked,
        derive 1 (.satellite 0 ⟨1, 0, 0⟩ ⟨0, 1, 0⟩) (.center 1) = .ok orbit ∧
        @derive _ (Scalar.checked (.real default)) (some 1)
            ((Particle.satellite 0 ⟨1, 0, 0⟩ ⟨0, 1, 0⟩).map some)
            ((Particle.center 1).map some) = .ok checked ∧
        orbit.meanMotion ≠ 0 ∧ orbit.angularMomentumLength ≠ 0 ∧
        checked.period = some orbit.period ∧ checked.inclination = some orbit.inclination := by
  let := Scalar.real default
  have distanceEq : (⟨1, 0, 0⟩ : Vec3 ℝ).length = 1 :=
    (Vec3.length_on_axis default 1).trans abs_one
  have bounded : ¬ IsParabolic ((1 : ℝ) * (0 + 1)) ⟨1, 0, 0⟩ ⟨0, 1, 0⟩ := by
    unfold IsParabolic Vec3.lengthSquared Vec3.dot
    rw [distanceEq, Scalar.exact_two]
    norm_num
  have turns : ¬ IsRadial (⟨1, 0, 0⟩ : Vec3 ℝ) ⟨0, 1, 0⟩ := by
    rintro ⟨factor, velocityEq⟩
    have sideways : (1 : ℝ) = 0 * factor := congrArg Vec3.y velocityEq
    rw [zero_mul] at sideways
    exact one_ne_zero sideways
  have derived := derive_satellite 1 0 ⟨0, 1, 0⟩ le_rfl distanceEq.ge
  obtain ⟨divides, ⟨checked, derivedChecked, defined⟩, -⟩ :=
    derive_divides_by_nonzero default zero_lt_one le_rfl _ derived
  obtain ⟨positionEq, velocityEq⟩ := Particle.motion_satellite 0 1 ⟨1, 0, 0⟩ ⟨0, 1, 0⟩
  rw [positionEq, velocityEq] at divides defined
  exact ⟨zero_lt_one, le_rfl, _, checked, derived, derivedChecked, divides.meanMotion_ne bounded,
    divides.momentum_ne turns, (defined.of_not_parabolic bounded).2.2,
    defined.of_not_radial turns⟩

/-- Orbits are derived from motion along a parabola, where there is no energy to divide by,
and from a fall, where there is no momentum to divide by. -/
theorem derive_divides_by_zero :
    letI := Scalar.real default
    (∃ orbit checked,
      derive 1 (.satellite 1 ⟨6, 0, 0⟩ ⟨0, 1, 0⟩) (.center 2) = .ok orbit ∧
      @derive _ (Scalar.checked (.real default)) (some 1)
          ((Particle.satellite 1 ⟨6, 0, 0⟩ ⟨0, 1, 0⟩).map some)
          ((Particle.center 2).map some) = .ok checked ∧
      (⟨0, 1, 0⟩ : Vec3 ℝ).lengthSquared - 2 * (1 * (1 + 2) / orbit.distance) = 0 ∧
      checked.semiMajorAxis = none) ∧
    ∃ orbit checked,
      derive 1 (.satellite 0 ⟨4, 0, 0⟩ ⟨0, 0, 0⟩) (.center 2) = .ok orbit ∧
      @derive _ (Scalar.checked (.real default)) (some 1)
          ((Particle.satellite 0 ⟨4, 0, 0⟩ ⟨0, 0, 0⟩).map some)
          ((Particle.center 2).map some) = .ok checked ∧
      orbit.angularMomentumLength = 0 ∧ checked.inclination = none := by
  let := Scalar.real default
  constructor
  · have distanceEq : (⟨6, 0, 0⟩ : Vec3 ℝ).length = 6 :=
      (Vec3.length_on_axis default 6).trans (abs_of_pos (by norm_num))
    have far : 1 ≤ (⟨6, 0, 0⟩ : Vec3 ℝ).length := by
      rw [distanceEq]
      norm_num
    have noEnergy : (⟨0, 1, 0⟩ : Vec3 ℝ).lengthSquared -
        2 * (1 * (1 + 2) / (⟨6, 0, 0⟩ : Vec3 ℝ).length) = 0 := by
      unfold Vec3.lengthSquared Vec3.dot
      rw [distanceEq]
      norm_num
    have attracts : (1 : ℝ) * (1 + 2) ≠ 0 := by norm_num
    obtain ⟨checked, derivedChecked, alike⟩ :=
      exists_derivedAlike_satellite ⟨0, 1, 0⟩ one_le_two attracts far
    refine ⟨_, checked, derive_satellite 1 1 _ one_le_two far, derivedChecked, noEnergy,
      alike.semiMajorAxis_eq_none ?_⟩
    rw [Scalar.exact_two]
    exact noEnergy
  · have distanceEq : (⟨4, 0, 0⟩ : Vec3 ℝ).length = 4 :=
      (Vec3.length_on_axis default 4).trans (abs_of_pos (by norm_num))
    have far : 1 ≤ (⟨4, 0, 0⟩ : Vec3 ℝ).length := by
      rw [distanceEq]
      norm_num
    have noMomentum : ((⟨4, 0, 0⟩ : Vec3 ℝ).cross ⟨0, 0, 0⟩).length = 0 := by
      unfold Vec3.cross
      simp only [mul_zero, sub_self]
      exact (Vec3.length_on_axis default 0).trans abs_zero
    have attracts : (1 : ℝ) * (0 + 2) ≠ 0 := by norm_num
    obtain ⟨checked, derivedChecked, alike⟩ :=
      exists_derivedAlike_satellite ⟨0, 0, 0⟩ one_le_two attracts far
    exact ⟨_, checked, derive_satellite 1 0 _ one_le_two far, derivedChecked, noMomentum,
      alike.inclination_eq_none noMomentum⟩

end Orbit

end Telemetry
