import Mathlib.Tactic.FieldSimp
import Telemetry.Proofs.Orbit.Derivation
import Telemetry.Proofs.Vector.Exact

/-!
# The identities of Kepler motion

The vectors and the shape of an orbit are derived on separate ways from the same motion.
Over real numbers they fit together as they do on a conic: the eccentricity vector lies in
the plane of the motion, the particle is on the conic that this vector describes, and the
width of the conic is told by the momentum as well as by the axis and the eccentricity.
-/

namespace Telemetry

namespace Orbit

section Identities

variable (texts : ElementaryFunctions ℝ) {parameter : ℝ} {position velocity : Vec3 ℝ}

/-- The eccentricity vector is made of the position and the velocity: it lies in the plane
of the motion. -/
theorem eccentricityVector_eq_combination :
    letI := Scalar.real texts
    position.length ≠ 0 →
      (ofRelativeMotion parameter position velocity).eccentricityVector =
        position * ((velocity.lengthSquared - parameter / position.length) / parameter) +
          velocity * (-(position.dot velocity / parameter)) := by
  let := Scalar.real texts
  intro apart
  rw [eccentricityVector_ofRelativeMotion, mul_div_cancel₀ _ apart]
  refine Vec3.ext_component fun axis => ?_
  simp only [Vec3.component_div, Vec3.component_sub, Vec3.component_mul, Vec3.component_add]
  ring

theorem momentum_dot_eccentricityVector :
    letI := Scalar.real texts
    position.length ≠ 0 →
      (position.cross velocity).dot
        (ofRelativeMotion parameter position velocity).eccentricityVector = 0 := by
  let := Scalar.real texts
  intro apart
  rw [eccentricityVector_eq_combination texts apart, Vec3.dot_combination_right,
    Vec3.cross_dot_first, Vec3.cross_dot_second]
  ring

theorem momentumLength_sq :
    letI := Scalar.real texts
    (ofRelativeMotion parameter position velocity).angularMomentumLength ^ 2 =
      position.length ^ 2 * velocity.lengthSquared - position.dot velocity ^ 2 := by
  let := Scalar.real texts
  rw [Vec3.length_sq]
  unfold angularMomentumLength
  rw [Vec3.length_sq]
  exact Vec3.cross_dot_cross _ position velocity

/-- The equation of a conic with a focus at the reference. -/
theorem eccentricityVector_dot_position :
    letI := Scalar.real texts
    position.length ≠ 0 → parameter ≠ 0 →
      (ofRelativeMotion parameter position velocity).eccentricityVector.dot position +
          position.length =
        (ofRelativeMotion parameter position velocity).angularMomentumLength ^ 2 /
          parameter := by
  let := Scalar.real texts
  intro apart attracts
  rw [eccentricityVector_eq_combination texts apart, Vec3.dot_comm, Vec3.dot_combination_right,
    ← Vec3.length_sq, momentumLength_sq]
  field_simp
  ring

/-- The eccentricity tells on which side of a parabola the speed lies. -/
theorem eccentricity_sq :
    letI := Scalar.real texts
    position.length ≠ 0 → parameter ≠ 0 →
      (ofRelativeMotion parameter position velocity).eccentricity ^ 2 =
        1 + (ofRelativeMotion parameter position velocity).angularMomentumLength ^ 2 *
          (velocity.lengthSquared - 2 * (parameter / position.length)) / parameter ^ 2 := by
  let := Scalar.real texts
  intro apart attracts
  have lengthEq : (ofRelativeMotion parameter position velocity).eccentricity =
      (ofRelativeMotion parameter position velocity).eccentricityVector.length := rfl
  have speedEq : velocity.dot velocity = velocity.lengthSquared := rfl
  rw [lengthEq, Vec3.length_sq, eccentricityVector_eq_combination texts apart,
    Vec3.dot_combination, ← Vec3.length_sq texts position, speedEq, momentumLength_sq]
  field_simp
  ring

theorem momentumLength_sq_eq_width :
    letI := Scalar.real texts
    position.length ≠ 0 → parameter ≠ 0 →
      velocity.lengthSquared ≠ 2 * (parameter / position.length) →
      (ofRelativeMotion parameter position velocity).angularMomentumLength ^ 2 =
        parameter * (ofRelativeMotion parameter position velocity).semiMajorAxis *
          (1 - (ofRelativeMotion parameter position velocity).eccentricity ^ 2) := by
  let := Scalar.real texts
  intro apart attracts notParabolic
  have energyNe := sub_ne_zero.mpr notParabolic
  rw [eccentricity_sq texts apart attracts, semiMajorAxis_ofRelativeMotion, Scalar.exact_two]
  generalize velocity.lengthSquared - 2 * (parameter / position.length) = energy at energyNe ⊢
  field_simp
  ring

end Identities

end Orbit

/-- The vectors and the elements of an orbit are those of one conic, on which the particle
is. -/
theorem Orbit.derive_satisfies_kepler (texts : ElementaryFunctions ℝ) {gravity : ℝ}
    {particle reference : Particle ℝ}
    (attracts : gravity * (particle.mass + reference.mass) ≠ 0) :
    letI := Scalar.real texts
    ∀ orbit, derive gravity particle reference = .ok orbit →
      orbit.angularMomentum.dot (particle.position - reference.position) = 0 ∧
        orbit.angularMomentum.dot (particle.velocity - reference.velocity) = 0 ∧
        orbit.angularMomentum.dot orbit.eccentricityVector = 0 ∧
        orbit.eccentricityVector.dot (particle.position - reference.position) +
            orbit.distance =
          orbit.angularMomentumLength ^ 2 / (gravity * (particle.mass + reference.mass)) ∧
        ((particle.velocity - reference.velocity).lengthSquared ≠
            2 * (gravity * (particle.mass + reference.mass)) / orbit.distance →
          orbit.angularMomentumLength ^ 2 =
            gravity * (particle.mass + reference.mass) * orbit.semiMajorAxis *
              (1 - orbit.eccentricity ^ 2)) := by
  let := Scalar.real texts
  intro orbit derived
  obtain ⟨-, far, rfl⟩ := derive_eq_ok_iff.mp derived
  have apart := (pos_of_not_tiny far).ne'
  refine ⟨Vec3.cross_dot_first _ _ _, Vec3.cross_dot_second _ _ _,
    momentum_dot_eccentricityVector texts apart,
    eccentricityVector_dot_position texts apart attracts, fun notParabolic => ?_⟩
  rw [mul_div_assoc] at notParabolic
  exact momentumLength_sq_eq_width texts apart attracts notParabolic

/-! ## A satellite of a body at rest -/

/-- A body that rests at the origin. -/
noncomputable def Particle.center (mass : ℝ) : Particle ℝ :=
  letI := Scalar.real default
  .pointMass ⟨0⟩ "center" mass

noncomputable def Particle.satellite (mass : ℝ) (position velocity : Vec3 ℝ) : Particle ℝ :=
  letI := Scalar.real default
  { Particle.pointMass ⟨1⟩ "satellite" mass with position := position, velocity := velocity }

/-- What is measured from a body at the origin is measured from the origin. -/
theorem Particle.motion_satellite (mass central : ℝ) (position velocity : Vec3 ℝ) :
    letI := Scalar.real default
    (satellite mass position velocity).position - (center central).position = position ∧
      (satellite mass position velocity).velocity - (center central).velocity = velocity :=
  ⟨Vec3.sub_zero_eq _ position, Vec3.sub_zero_eq _ velocity⟩

namespace Orbit

theorem derive_satellite (gravity mass : ℝ) {central : ℝ} {position : Vec3 ℝ}
    (velocity : Vec3 ℝ) (hasMass : 1 ≤ central) :
    letI := Scalar.real default
    1 ≤ position.length →
      derive gravity (.satellite mass position velocity) (.center central) =
        .ok (ofRelativeMotion (gravity * (mass + central)) position velocity) := by
  let := Scalar.real default
  intro far
  have tinyLt : tiny < (1 : ℝ) := tiny_lt_half.trans (by norm_num)
  obtain ⟨positionEq, velocityEq⟩ := Particle.motion_satellite mass central position velocity
  rw [derive_eq_ok, positionEq, velocityEq]
  · rfl
  · exact (Scalar.exact_atMost_eq_false_iff _).mpr (tinyLt.trans_le hasMass)
  · rw [positionEq]
    exact (Scalar.exact_atMost_eq_false_iff _).mpr (tinyLt.trans_le far)

/-- A satellite that climbs straight up from the reference plane is on an ellipse. -/
theorem derive_satisfies_kepler_of_climbing :
    letI := Scalar.real default
    (1 : ℝ) * ((Particle.satellite 0 ⟨1, 0, 0⟩ ⟨0, 0, 1 / 2⟩).mass +
        (Particle.center 1).mass) ≠ 0 ∧
      ∃ orbit, derive 1 (.satellite 0 ⟨1, 0, 0⟩ ⟨0, 0, 1 / 2⟩) (.center 1) = .ok orbit ∧
        orbit.distance = 1 ∧ orbit.semiMajorAxis = 4 / 7 ∧
        orbit.angularMomentum.dot orbit.eccentricityVector = 0 ∧
        orbit.angularMomentumLength ^ 2 = 4 / 7 * (1 - orbit.eccentricity ^ 2) := by
  let := Scalar.real default
  have speedEq : (⟨0, 0, 1 / 2⟩ : Vec3 ℝ).lengthSquared = 1 / 4 := by
    unfold Vec3.lengthSquared Vec3.dot
    norm_num
  have distanceEq : (⟨1, 0, 0⟩ : Vec3 ℝ).length = 1 :=
    (Vec3.length_on_axis default 1).trans abs_one
  have parameterEq : (1 : ℝ) * (0 + 1) = 1 := by norm_num
  have attracts : (1 : ℝ) * ((Particle.satellite 0 ⟨1, 0, 0⟩ ⟨0, 0, 1 / 2⟩).mass +
      (Particle.center 1).mass) ≠ 0 := parameterEq.trans_ne one_ne_zero
  have derived := derive_satellite 1 0 ⟨0, 0, 1 / 2⟩ le_rfl distanceEq.ge
  obtain ⟨-, -, upright, -, width⟩ := derive_satisfies_kepler default attracts _ derived
  have axisEq : (ofRelativeMotion ((1 : ℝ) * (0 + 1)) ⟨1, 0, 0⟩ ⟨0, 0, 1 / 2⟩).semiMajorAxis =
      4 / 7 := by
    rw [semiMajorAxis_ofRelativeMotion, distanceEq, speedEq, Scalar.exact_two]
    norm_num
  have notParabolic : (1 / 4 : ℝ) ≠ 2 * (1 * (0 + 1)) / 1 := by norm_num
  refine ⟨attracts, _, derived, distanceEq, axisEq, upright, ?_⟩
  rw [width ?_, axisEq]
  · change (1 : ℝ) * (0 + 1) * _ * _ = _
    rw [parameterEq, one_mul]
  · rw [(Particle.motion_satellite _ _ _ _).2, speedEq]
    exact fun parabolic => notParabolic (parabolic.trans (congrArg _ distanceEq))

end Orbit

end Telemetry
