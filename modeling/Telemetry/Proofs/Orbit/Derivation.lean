import Mathlib.Algebra.Order.Field.Basic
import Mathlib.Tactic.Positivity
import Telemetry.Proofs.Scalar.Real
import Telemetry.Orbit.Basic

/-!
# Deriving an orbit

When an orbit can be derived, and what its elements are read from.
-/

namespace Telemetry

namespace Orbit

section Reading

variable {α : Type} [Scalar α]

/-- A reference without mass is noticed before anything is measured. -/
theorem derive_eq_error_iff {gravity : α} {particle reference : Particle α} {cause : OrbitError} :
    derive gravity particle reference = .error cause ↔
      (Scalar.atMost reference.mass tiny = true ∧ cause = .masslessReference) ∨
      (Scalar.atMost reference.mass tiny = false ∧
        Scalar.atMost (particle.position - reference.position).length tiny = true ∧
        cause = .coincident) := by
  unfold derive
  dsimp only
  cases Scalar.atMost reference.mass tiny with
  | true => cases cause <;> simp
  | false =>
      cases Scalar.atMost (particle.position - reference.position).length tiny with
      | true => cases cause <;> simp
      | false => simp

theorem derive_eq_ok_iff {gravity : α} {particle reference : Particle α} {orbit : Orbit α} :
    derive gravity particle reference = .ok orbit ↔
      Scalar.atMost reference.mass tiny = false ∧
        Scalar.atMost (particle.position - reference.position).length tiny = false ∧
        ofRelativeMotion (gravity * (particle.mass + reference.mass))
          (particle.position - reference.position)
          (particle.velocity - reference.velocity) = orbit := by
  unfold derive
  dsimp only
  cases Scalar.atMost reference.mass tiny with
  | true => simp
  | false =>
      cases Scalar.atMost (particle.position - reference.position).length tiny with
      | true => simp
      | false => simp

theorem derive_eq_ok {gravity : α} {particle reference : Particle α}
    (hasMass : Scalar.atMost reference.mass tiny = false)
    (apart : Scalar.atMost (particle.position - reference.position).length tiny = false) :
    derive gravity particle reference =
      .ok (ofRelativeMotion (gravity * (particle.mass + reference.mass))
        (particle.position - reference.position) (particle.velocity - reference.velocity)) :=
  derive_eq_ok_iff.mpr ⟨hasMass, apart, rfl⟩

variable (parameter : α) (position velocity : Vec3 α)

theorem semiMajorAxis_ofRelativeMotion :
    (ofRelativeMotion parameter position velocity).semiMajorAxis =
      -parameter / (velocity.lengthSquared - 2.0 * (parameter / position.length)) :=
  rfl

theorem eccentricityVector_ofRelativeMotion :
    (ofRelativeMotion parameter position velocity).eccentricityVector =
      (position * (velocity.lengthSquared - parameter / position.length) -
        velocity * (position.length * (position.dot velocity / position.length))) / parameter :=
  rfl

/-- A vector towards the ascending node. -/
def node (orbit : Orbit α) : Vec3 α :=
  ⟨-orbit.angularMomentum.y, orbit.angularMomentum.x, 0.0⟩

section Elements

variable (orbit : Orbit α) (orbitEq : ofRelativeMotion parameter position velocity = orbit)
include orbitEq

theorem ascendingNode_ofRelativeMotion :
    orbit.ascendingNode =
      if Scalar.atMost orbit.node.length tiny then 0.0
      else signedAngle orbit.node.x orbit.node.length orbit.node.y := by
  subst orbitEq
  rfl

theorem pericenter_ofRelativeMotion :
    orbit.pericenter =
      if Scalar.atMost orbit.eccentricity tiny then 0.0
      else if Scalar.atMost orbit.node.length tiny then
        Scalar.atan2 orbit.eccentricityVector.y orbit.eccentricityVector.x *
          Scalar.signum orbit.angularMomentum.z
      else
        signedAngle (orbit.node.dot orbit.eccentricityVector)
          (orbit.node.length * orbit.eccentricity) orbit.eccentricityVector.z := by
  subst orbitEq
  dsimp only [node, ofRelativeMotion]
  split
  · rename_i circular
    exact (if_pos circular).symm
  · rename_i eccentric inclined
    exact ((if_neg (ne_true_of_eq_false eccentric)).trans
      (if_neg (ne_true_of_eq_false inclined))).symm
  · rename_i eccentric equatorial
    exact ((if_neg (ne_true_of_eq_false eccentric)).trans (if_pos equatorial)).symm

theorem trueAnomaly_ofRelativeMotion :
    orbit.trueAnomaly =
      if Scalar.atMost orbit.eccentricity tiny then
        if Scalar.atMost orbit.node.length tiny then
          Scalar.atan2 position.y position.x * Scalar.signum orbit.angularMomentum.z
        else signedAngle (orbit.node.dot position) (orbit.node.length * orbit.distance) position.z
      else
        signedAngle (orbit.eccentricityVector.dot position) (orbit.eccentricity * orbit.distance)
          (position.dot velocity / orbit.distance) := by
  subst orbitEq
  dsimp only [node, ofRelativeMotion]
  split
  · rename_i eccentric
    exact (if_neg (ne_true_of_eq_false eccentric)).symm
  · rename_i circular inclined
    exact ((if_pos circular).trans (if_neg (ne_true_of_eq_false inclined))).symm
  · rename_i circular equatorial
    exact ((if_pos circular).trans (if_pos equatorial)).symm

theorem inclination_ofRelativeMotion :
    orbit.inclination =
      signedAngle orbit.angularMomentum.z orbit.angularMomentumLength 1.0 := by
  subst orbitEq
  rfl

theorem meanAnomaly_ofRelativeMotion :
    orbit.meanAnomaly = meanOfTrueAnomaly orbit.trueAnomaly orbit.eccentricity := by
  subst orbitEq
  rfl

theorem meanMotion_ofRelativeMotion :
    orbit.meanMotion =
      Scalar.signum orbit.semiMajorAxis * Scalar.sqrt (Scalar.abs
        (parameter / (orbit.semiMajorAxis * orbit.semiMajorAxis * orbit.semiMajorAxis))) := by
  subst orbitEq
  rfl

theorem period_ofRelativeMotion : orbit.period = 2.0 * Scalar.pi / orbit.meanMotion := by
  subst orbitEq
  rfl

/-- Where an orbit is inclined and not circular, all angles are read from its vectors. -/
theorem angles_ofRelativeMotion
    (inclined : Scalar.atMost orbit.node.length tiny = false)
    (eccentric : Scalar.atMost orbit.eccentricity tiny = false) :
    orbit.inclination =
        signedAngle orbit.angularMomentum.z orbit.angularMomentum.length 1.0 ∧
      orbit.ascendingNode = signedAngle orbit.node.x orbit.node.length orbit.node.y ∧
      orbit.pericenter =
        signedAngle (orbit.node.dot orbit.eccentricityVector)
          (orbit.node.length * orbit.eccentricity) orbit.eccentricityVector.z ∧
      orbit.trueAnomaly =
        signedAngle (orbit.eccentricityVector.dot position)
          (orbit.eccentricity * orbit.distance) (position.dot velocity / orbit.distance) := by
  rw [ascendingNode_ofRelativeMotion parameter position velocity orbit orbitEq,
    pericenter_ofRelativeMotion parameter position velocity orbit orbitEq,
    trueAnomaly_ofRelativeMotion parameter position velocity orbit orbitEq, inclined, eccentric]
  subst orbitEq
  exact ⟨rfl, rfl, rfl, rfl⟩

end Elements

end Reading

section Tiny

variable {K : Type} [Field K] [LinearOrder K] [IsStrictOrderedRing K]
  {functions : ElementaryFunctions K}

theorem tiny_nonneg :
    letI := Scalar.exact functions
    (0 : K) ≤ tiny := by
  unfold tiny
  rw [Scalar.exact_ofScientific]
  positivity

theorem tiny_lt_half :
    letI := Scalar.exact functions
    (tiny : K) < 1 / 2 := by
  unfold tiny
  rw [Scalar.exact_ofScientific]
  norm_num

/-- What does not count as zero is not zero. -/
theorem pos_of_not_tiny {length : K} :
    letI := Scalar.exact functions
    Scalar.atMost length tiny = false → 0 < length := by
  let := Scalar.exact functions
  intro notTiny
  exact tiny_nonneg.trans_lt ((Scalar.exact_atMost_eq_false_iff _).mp notTiny)

end Tiny

theorem signedAngle_eq_arccos (texts : ElementaryFunctions ℝ) (numerator denominator side : ℝ) :
    letI := Scalar.real texts
    signedAngle numerator denominator side =
      if side < 0 then -Real.arccos (Scalar.clamp (-1) 1 (numerator / denominator))
      else Real.arccos (Scalar.clamp (-1) 1 (numerator / denominator)) := by
  let := Scalar.real texts
  unfold signedAngle
  rw [Scalar.exact_one, Scalar.exact_zero]
  simp only [Scalar.exact_less_iff]
  rfl

end Orbit

end Telemetry
