import Telemetry.Proofs.Orbit.Derivation
import Telemetry.Proofs.Scalar.Checked
import Telemetry.Proofs.Scalar.Real
import Telemetry.Proofs.Vector.Exact

/-!
# Deriving an orbit with an eye on the divisors

The derivation of an orbit runs on numbers that notice a division by zero as it does on any
others.  Where no divisor is zero the elements come out as defined numbers, and these are
the elements that exact numbers give.  Each lemma says which divisors an element needs.

The tangent of half the true anomaly is a call and no division, and it is total on both
sides.  At a true anomaly of π or -π it has no value in geometry, and the mean anomaly is
built on the one that is set there: it is defined, which is all that is said of it.
-/

namespace Telemetry

section Map

variable {α β : Type} (change : α → β)

def Vec3.map (vector : Vec3 α) : Vec3 β :=
  ⟨change vector.x, change vector.y, change vector.z⟩

def Particle.map (particle : Particle α) : Particle β where
  id := particle.id
  name := particle.name
  mass := change particle.mass
  radius := change particle.radius
  position := particle.position.map change
  velocity := particle.velocity.map change
  acceleration := particle.acceleration.map change

def Orbit.map (orbit : Orbit α) : Orbit β where
  distance := change orbit.distance
  speed := change orbit.speed
  semiMajorAxis := change orbit.semiMajorAxis
  eccentricity := change orbit.eccentricity
  inclination := change orbit.inclination
  ascendingNode := change orbit.ascendingNode
  pericenter := change orbit.pericenter
  trueAnomaly := change orbit.trueAnomaly
  meanAnomaly := change orbit.meanAnomaly
  meanMotion := change orbit.meanMotion
  period := change orbit.period
  angularMomentum := orbit.angularMomentum.map change
  eccentricityVector := orbit.eccentricityVector.map change

end Map

section Parts

variable {K : Type} [Field K] [LinearOrder K] (functions : ElementaryFunctions K)

theorem Vec3.checked_div {divisor : K} (nonzero : divisor ≠ 0) (vector : Vec3 K) :
    letI := Scalar.exact functions
    letI := Scalar.checked functions
    vector.map some / (some divisor : Option K) = (vector / divisor).map some := by
  let := Scalar.exact functions
  let := Scalar.checked functions
  change (⟨some vector.x / some divisor, some vector.y / some divisor,
    some vector.z / some divisor⟩ : Vec3 (Option K)) = _
  simp only [Scalar.checked_div functions nonzero]
  rfl

namespace Orbit

theorem signedAngle_checked {denominator : K} (nonzero : denominator ≠ 0)
    (numerator side : K) :
    letI := Scalar.exact functions
    letI := Scalar.checked functions
    signedAngle (some numerator) (some denominator) (some side) =
      some (signedAngle numerator denominator side) := by
  let := Scalar.exact functions
  let := Scalar.checked functions
  have clamped : Scalar.clamp (-1.0) 1.0 (some (numerator / denominator) : Option K) =
      some (Scalar.clamp (-1.0) 1.0 (numerator / denominator)) :=
    Scalar.checked_clamp functions _ _ _
  unfold signedAngle
  dsimp only
  rw [Scalar.checked_div functions nonzero, clamped, apply_ite some]
  rfl

/-- Kepler's equation and its counterparts divide by constants and by numbers that are not
less than one.  Their elementary functions are taken as total, so that at a true anomaly of π
or -π both sides are built on the value that is set for the tangent at its pole. -/
theorem meanOfTrueAnomaly_checked [IsStrictOrderedRing K] (trueAnomaly : K)
    {eccentricity : K} (nonneg : 0 ≤ eccentricity) :
    letI := Scalar.exact functions
    letI := Scalar.checked functions
    meanOfTrueAnomaly (some trueAnomaly) (some eccentricity) =
      some (meanOfTrueAnomaly trueAnomaly eccentricity) := by
  let := Scalar.exact functions
  let := Scalar.checked functions
  have twoNe : (2.0 : K) ≠ 0 := by
    rw [Scalar.exact_two]
    norm_num
  have threeNe : (3.0 : K) ≠ 0 := by
    rw [Scalar.exact_three]
    norm_num
  have ellipseNe : 1.0 + eccentricity ≠ 0 := by
    rw [Scalar.exact_one]
    positivity
  have hyperbolaNe : eccentricity + 1.0 ≠ 0 := by
    rw [Scalar.exact_one]
    positivity
  have half : (some trueAnomaly / 2.0 : Option K) = some (trueAnomaly / 2.0) :=
    Scalar.checked_div functions twoNe _
  have ellipse : ((1.0 - some eccentricity) / (1.0 + some eccentricity) : Option K) =
      some ((1.0 - eccentricity) / (1.0 + eccentricity)) :=
    Scalar.checked_div functions ellipseNe _
  have hyperbola : ((some eccentricity - 1.0) / (some eccentricity + 1.0) : Option K) =
      some ((eccentricity - 1.0) / (eccentricity + 1.0)) :=
    Scalar.checked_div functions hyperbolaNe _
  have parabola (tangent : K) :
      (some tangent + some tangent * some tangent * some tangent / 3.0 : Option K) =
        some (tangent + tangent * tangent * tangent / 3.0) :=
    congrArg (some tangent + ·) (Scalar.checked_div functions threeNe _)
  have tangentEq : Scalar.tan (some (trueAnomaly / 2.0)) =
      some (Scalar.tan (trueAnomaly / 2.0)) := rfl
  unfold meanOfTrueAnomaly
  dsimp only
  rw [half, tangentEq, ellipse, hyperbola, parabola, apply_ite some, apply_ite some]
  rfl

end Orbit

end Parts

namespace Orbit

/-- One motion with two records of its orbit: over real numbers, and over numbers that
notice a division by zero.  The particle is apart from the reference, and there is a pull
between them. -/
structure DerivedAlike (texts : ElementaryFunctions ℝ) (parameter : ℝ)
    (position velocity : Vec3 ℝ) (orbit : Orbit ℝ) (checked : Orbit (Option ℝ)) : Prop where
  orbit_eq : @ofRelativeMotion ℝ (Scalar.real texts) parameter position velocity = orbit
  checked_eq : @ofRelativeMotion (Option ℝ) (Scalar.checked (.real texts)) (some parameter)
    (position.map some) (velocity.map some) = checked
  apart : orbit.distance ≠ 0
  attracts : parameter ≠ 0

namespace DerivedAlike

variable {texts : ElementaryFunctions ℝ} {parameter : ℝ} {position velocity : Vec3 ℝ}
  {orbit : Orbit ℝ} {checked : Orbit (Option ℝ)}
  (alike : DerivedAlike texts parameter position velocity orbit checked)
include alike

theorem distance_eq : checked.distance = some orbit.distance := by
  rw [← alike.orbit_eq, ← alike.checked_eq]
  rfl

theorem speed_eq : checked.speed = some orbit.speed := by
  rw [← alike.orbit_eq, ← alike.checked_eq]
  rfl

theorem angularMomentum_eq : checked.angularMomentum = orbit.angularMomentum.map some := by
  rw [← alike.orbit_eq, ← alike.checked_eq]
  rfl

theorem node_eq :
    letI := Scalar.real texts
    letI := Scalar.checked (.real texts)
    checked.node = orbit.node.map some := by
  unfold node
  rw [alike.angularMomentum_eq]
  rfl

theorem eccentricityVector_eq :
    checked.eccentricityVector = orbit.eccentricityVector.map some := by
  let := Scalar.real texts
  let := Scalar.checked (.real texts)
  obtain ⟨rfl, rfl, apart, attracts⟩ := alike
  have circular : (some parameter / (position.map some).length : Option ℝ) =
      some (parameter / position.length) := Scalar.checked_div _ apart _
  have radial : ((position.map some).dot (velocity.map some) / (position.map some).length :
      Option ℝ) = some (position.dot velocity / position.length) :=
    Scalar.checked_div _ apart _
  rw [eccentricityVector_ofRelativeMotion, eccentricityVector_ofRelativeMotion, circular, radial]
  exact Vec3.checked_div _ attracts
    (position * (velocity.lengthSquared - parameter / position.length) -
      velocity * (position.length * (position.dot velocity / position.length)))

theorem eccentricity_eq : checked.eccentricity = some orbit.eccentricity := by
  have vectorEq := alike.eccentricityVector_eq
  obtain ⟨rfl, rfl, -, -⟩ := alike
  exact congrArg (@Vec3.length _ (Scalar.checked (.real texts))) vectorEq

theorem eccentricity_nonneg : 0 ≤ orbit.eccentricity := by
  rw [← alike.orbit_eq]
  exact Real.sqrt_nonneg _

/-- Both derivations take the same branches. -/
theorem atMost_node_eq :
    letI := Scalar.real texts
    letI := Scalar.checked (.real texts)
    Scalar.atMost checked.node.length tiny = Scalar.atMost orbit.node.length tiny := by
  rw [alike.node_eq]
  rfl

theorem atMost_eccentricity_eq :
    letI := Scalar.real texts
    letI := Scalar.checked (.real texts)
    Scalar.atMost checked.eccentricity tiny = Scalar.atMost orbit.eccentricity tiny := by
  rw [alike.eccentricity_eq]
  rfl

theorem ascendingNode_eq : checked.ascendingNode = some orbit.ascendingNode := by
  let := Scalar.real texts
  let := Scalar.checked (.real texts)
  rw [ascendingNode_ofRelativeMotion _ _ _ checked alike.checked_eq,
    ascendingNode_ofRelativeMotion _ _ _ orbit alike.orbit_eq, alike.atMost_node_eq]
  cases inclined : Scalar.atMost orbit.node.length tiny with
  | true => rfl
  | false =>
      rw [alike.node_eq]
      exact signedAngle_checked _ (pos_of_not_tiny inclined).ne' _ _

theorem pericenter_eq : checked.pericenter = some orbit.pericenter := by
  let := Scalar.real texts
  let := Scalar.checked (.real texts)
  rw [pericenter_ofRelativeMotion _ _ _ checked alike.checked_eq,
    pericenter_ofRelativeMotion _ _ _ orbit alike.orbit_eq, alike.atMost_node_eq,
    alike.atMost_eccentricity_eq, alike.angularMomentum_eq, alike.eccentricityVector_eq]
  cases eccentric : Scalar.atMost orbit.eccentricity tiny with
  | true => rfl
  | false =>
      cases inclined : Scalar.atMost orbit.node.length tiny with
      | true => exact congrArg (_ * ·) (Scalar.checked_signum _ orbit.angularMomentum.z)
      | false =>
          rw [alike.node_eq, alike.eccentricity_eq]
          exact signedAngle_checked _
            (mul_pos (pos_of_not_tiny inclined) (pos_of_not_tiny eccentric)).ne' _ _

theorem trueAnomaly_eq : checked.trueAnomaly = some orbit.trueAnomaly := by
  let := Scalar.real texts
  let := Scalar.checked (.real texts)
  rw [trueAnomaly_ofRelativeMotion _ _ _ checked alike.checked_eq,
    trueAnomaly_ofRelativeMotion _ _ _ orbit alike.orbit_eq, alike.atMost_node_eq,
    alike.atMost_eccentricity_eq, alike.angularMomentum_eq, alike.distance_eq]
  cases eccentric : Scalar.atMost orbit.eccentricity tiny with
  | true =>
      cases inclined : Scalar.atMost orbit.node.length tiny with
      | true => exact congrArg (_ * ·) (Scalar.checked_signum _ orbit.angularMomentum.z)
      | false =>
          rw [alike.node_eq]
          exact signedAngle_checked _ (mul_ne_zero (pos_of_not_tiny inclined).ne' alike.apart)
            _ _
  | false =>
      have radial : ((position.map some).dot (velocity.map some) / some orbit.distance :
          Option ℝ) = some (position.dot velocity / orbit.distance) :=
        Scalar.checked_div _ alike.apart _
      rw [radial, alike.eccentricityVector_eq, alike.eccentricity_eq]
      exact signedAngle_checked _ (mul_ne_zero (pos_of_not_tiny eccentric).ne' alike.apart) _ _

theorem meanAnomaly_eq : checked.meanAnomaly = some orbit.meanAnomaly := by
  let := Scalar.real texts
  let := Scalar.checked (.real texts)
  rw [meanAnomaly_ofRelativeMotion _ _ _ checked alike.checked_eq,
    meanAnomaly_ofRelativeMotion _ _ _ orbit alike.orbit_eq, alike.trueAnomaly_eq,
    alike.eccentricity_eq]
  exact meanOfTrueAnomaly_checked _ _ alike.eccentricity_nonneg

/-- All elements but four come without a divisor that could be zero. -/
theorem eq_map : checked =
    { orbit.map some with
      semiMajorAxis := checked.semiMajorAxis
      inclination := checked.inclination
      meanMotion := checked.meanMotion
      period := checked.period } := by
  have parts : checked = ⟨checked.distance, checked.speed, checked.semiMajorAxis,
    checked.eccentricity, checked.inclination, checked.ascendingNode, checked.pericenter,
    checked.trueAnomaly, checked.meanAnomaly, checked.meanMotion, checked.period,
    checked.angularMomentum, checked.eccentricityVector⟩ := rfl
  refine parts.trans ?_
  rw [alike.distance_eq, alike.speed_eq, alike.eccentricity_eq, alike.ascendingNode_eq,
    alike.pericenter_eq, alike.trueAnomaly_eq, alike.meanAnomaly_eq, alike.angularMomentum_eq,
    alike.eccentricityVector_eq]
  rfl

/-! ## Elements that some orbits do not have -/

theorem semiMajorAxis_eq_div :
    letI := Scalar.real texts
    letI := Scalar.checked (.real texts)
    checked.semiMajorAxis = some (-parameter) /
      some (velocity.lengthSquared - 2.0 * (parameter / orbit.distance)) := by
  let := Scalar.real texts
  let := Scalar.checked (.real texts)
  obtain ⟨rfl, rfl, apart, -⟩ := alike
  have circular : (some parameter / (position.map some).length : Option ℝ) =
      some (parameter / position.length) := Scalar.checked_div _ apart _
  rw [semiMajorAxis_ofRelativeMotion, circular]
  rfl

theorem semiMajorAxis_eq :
    letI := Scalar.real texts
    velocity.lengthSquared - 2.0 * (parameter / orbit.distance) ≠ 0 →
      checked.semiMajorAxis = some orbit.semiMajorAxis := by
  let := Scalar.real texts
  intro energyNe
  rw [alike.semiMajorAxis_eq_div, Scalar.checked_div _ energyNe, ← alike.orbit_eq]
  rfl

theorem semiMajorAxis_eq_none :
    letI := Scalar.real texts
    velocity.lengthSquared - 2.0 * (parameter / orbit.distance) = 0 →
      checked.semiMajorAxis = none := by
  let := Scalar.real texts
  intro noEnergy
  rw [alike.semiMajorAxis_eq_div, noEnergy, Scalar.checked_div_zero]

theorem meanMotion_eq (axisEq : checked.semiMajorAxis = some orbit.semiMajorAxis)
    (axisNe : orbit.semiMajorAxis ≠ 0) : checked.meanMotion = some orbit.meanMotion := by
  let := Scalar.real texts
  let := Scalar.checked (.real texts)
  have quotientEq : (some parameter / (some orbit.semiMajorAxis * some orbit.semiMajorAxis *
      some orbit.semiMajorAxis) : Option ℝ) = some (parameter /
        (orbit.semiMajorAxis * orbit.semiMajorAxis * orbit.semiMajorAxis)) :=
    Scalar.checked_div _ (mul_ne_zero (mul_ne_zero axisNe axisNe) axisNe) _
  rw [meanMotion_ofRelativeMotion _ _ _ checked alike.checked_eq,
    meanMotion_ofRelativeMotion _ _ _ orbit alike.orbit_eq, axisEq, quotientEq,
    Scalar.checked_abs, Scalar.checked_signum]
  rfl

theorem meanMotion_eq_none (noAxis : checked.semiMajorAxis = none) :
    checked.meanMotion = none := by
  let := Scalar.checked (.real texts)
  rw [meanMotion_ofRelativeMotion _ _ _ checked alike.checked_eq, noAxis]
  rfl

theorem period_eq (motionEq : checked.meanMotion = some orbit.meanMotion)
    (motionNe : orbit.meanMotion ≠ 0) : checked.period = some orbit.period := by
  let := Scalar.real texts
  let := Scalar.checked (.real texts)
  rw [period_ofRelativeMotion _ _ _ checked alike.checked_eq,
    period_ofRelativeMotion _ _ _ orbit alike.orbit_eq, motionEq]
  exact Scalar.checked_div _ motionNe _

theorem period_eq_none (noMotion : checked.meanMotion = none) : checked.period = none := by
  let := Scalar.checked (.real texts)
  rw [period_ofRelativeMotion _ _ _ checked alike.checked_eq, noMotion]
  rfl

theorem inclination_eq :
    letI := Scalar.real texts
    orbit.angularMomentumLength ≠ 0 → checked.inclination = some orbit.inclination := by
  let := Scalar.real texts
  let := Scalar.checked (.real texts)
  intro momentumNe
  rw [inclination_ofRelativeMotion _ _ _ checked alike.checked_eq,
    inclination_ofRelativeMotion _ _ _ orbit alike.orbit_eq]
  unfold angularMomentumLength
  rw [alike.angularMomentum_eq]
  exact signedAngle_checked _ momentumNe _ _

theorem inclination_eq_none :
    letI := Scalar.real texts
    orbit.angularMomentumLength = 0 → checked.inclination = none := by
  let := Scalar.real texts
  let := Scalar.checked (.real texts)
  intro noMomentum
  have lengthEq : checked.angularMomentumLength = some 0 := by
    rw [← noMomentum]
    unfold angularMomentumLength
    rw [alike.angularMomentum_eq]
    rfl
  rw [inclination_ofRelativeMotion _ _ _ checked alike.checked_eq, lengthEq]
  unfold signedAngle
  dsimp only
  rw [Scalar.checked_div_zero]
  split <;> rfl

end DerivedAlike

/-- What can be derived over real numbers is derived over checked numbers as well. -/
theorem exists_derivedAlike {texts : ElementaryFunctions ℝ} {gravity : ℝ}
    {particle reference : Particle ℝ} {orbit : Orbit ℝ}
    (attracts : gravity * (particle.mass + reference.mass) ≠ 0) :
    letI := Scalar.real texts
    letI := Scalar.checked (.real texts)
    derive gravity particle reference = .ok orbit →
      ∃ checked, derive (some gravity) (particle.map some) (reference.map some) = .ok checked ∧
        DerivedAlike texts (gravity * (particle.mass + reference.mass))
          (particle.position - reference.position) (particle.velocity - reference.velocity)
          orbit checked := by
  let := Scalar.real texts
  let := Scalar.checked (.real texts)
  intro derived
  obtain ⟨hasMass, far, rfl⟩ := derive_eq_ok_iff.mp derived
  exact ⟨_, derive_eq_ok_iff.mpr ⟨hasMass, far, rfl⟩, rfl, rfl, (pos_of_not_tiny far).ne',
    attracts⟩

end Orbit

end Telemetry
