import Telemetry.Particle

/-!
# Orbits

The orbit of a particle around a reference body, derived from their masses and
relative motion: the classical elements together with the vectors they are read
from.  A reference without mass, or one in the same place as the particle, has
no orbit around it.

All angles are in radians.  Where an element is undefined, because the orbit is
circular or lies in the reference plane, the next element is measured from what
is left: from the ascending node, or from the first coordinate axis in the
direction of motion.
-/

namespace Telemetry

/-- Why a particle has no orbit around a reference body. -/
inductive OrbitError where
  | masslessReference
  | coincident
deriving Repr, DecidableEq

def OrbitError.message : OrbitError → String
  | .masslessReference => "the reference body has no mass"
  | .coincident => "the particle is in the same place as the reference body"

/-- Orbital elements and the vectors they are derived from. -/
structure Orbit (α : Type) where
  distance : α
  speed : α
  /-- Half the long axis; negative for a hyperbola. -/
  semiMajorAxis : α
  eccentricity : α
  inclination : α
  /-- Angle of the ascending node from the first coordinate axis. -/
  ascendingNode : α
  /-- Angle of the pericenter from the ascending node. -/
  pericenter : α
  /-- Angle of the particle from the pericenter. -/
  trueAnomaly : α
  meanAnomaly : α
  /-- Rate of the mean anomaly; negative for a hyperbola. -/
  meanMotion : α
  period : α
  /-- Angular momentum per unit of mass. -/
  angularMomentum : Vec3 α
  /-- Vector towards the pericenter, as long as the eccentricity. -/
  eccentricityVector : Vec3 α
deriving Repr, DecidableEq

namespace Orbit

variable {α : Type} [Scalar α]

/-- Masses, distances, eccentricities and lengths of the node vector up to this
bound count as zero. -/
def tiny : α := 1e-12

/-- The angle whose cosine is a quotient, counted negative when `side` is.  The
quotient is first moved into the range of the cosine. -/
def signedAngle (numerator denominator side : α) : α :=
  let angle := Scalar.acos (Scalar.clamp (-1.0) 1.0 (numerator / denominator))
  if Scalar.less side 0.0 then -angle else angle

/-- The mean anomaly that belongs to a true anomaly, by Kepler's equation for an
ellipse, its counterpart for a hyperbola, or Barker's equation for a parabola. -/
def meanOfTrueAnomaly (trueAnomaly eccentricity : α) : α :=
  let halfTangent := Scalar.tan (trueAnomaly / 2.0)
  if Scalar.less eccentricity (1.0 - tiny) then
    let ratio := (1.0 - eccentricity) / (1.0 + eccentricity)
    let eccentric := 2.0 * Scalar.atan (Scalar.sqrt ratio * halfTangent)
    eccentric - eccentricity * Scalar.sin eccentric
  else if Scalar.less (1.0 + tiny) eccentricity then
    let ratio := (eccentricity - 1.0) / (eccentricity + 1.0)
    let hyperbolic := 2.0 * Scalar.atanh (Scalar.sqrt ratio * halfTangent)
    eccentricity * Scalar.sinh hyperbolic - hyperbolic
  else
    halfTangent + halfTangent * halfTangent * halfTangent / 3.0

/-- The orbit of a body at a relative position with a relative velocity, under a
gravitational parameter. -/
def ofRelativeMotion (parameter : α) (position velocity : Vec3 α) : Orbit α :=
  let distance := position.length
  let speedSquared := velocity.lengthSquared
  let circularSquared := parameter / distance
  let axis := -parameter / (speedSquared - 2.0 * circularSquared)
  let momentum := position.cross velocity
  let momentumLength := momentum.length
  let radialSpeed := position.dot velocity / distance
  let eccentricityVector :=
    (position * (speedSquared - circularSquared) - velocity * (distance * radialSpeed)) /
      parameter
  let eccentricity := eccentricityVector.length
  let motion :=
    Scalar.signum axis * Scalar.sqrt (Scalar.abs (parameter / (axis * axis * axis)))
  let node : Vec3 α := ⟨-momentum.y, momentum.x, 0.0⟩
  let nodeLength := node.length
  let equatorial := Scalar.atMost nodeLength tiny
  let circular := Scalar.atMost eccentricity tiny
  let ascendingNode :=
    if equatorial then 0.0 else signedAngle node.x nodeLength node.y
  let pericenter :=
    match circular, equatorial with
    | true, _ => 0.0
    | false, false =>
        signedAngle (node.dot eccentricityVector) (nodeLength * eccentricity)
          eccentricityVector.z
    | false, true =>
        Scalar.atan2 eccentricityVector.y eccentricityVector.x * Scalar.signum momentum.z
  let trueAnomaly :=
    match circular, equatorial with
    | false, _ =>
        signedAngle (eccentricityVector.dot position) (eccentricity * distance) radialSpeed
    | true, false => signedAngle (node.dot position) (nodeLength * distance) position.z
    | true, true => Scalar.atan2 position.y position.x * Scalar.signum momentum.z
  { distance := distance
    speed := Scalar.sqrt speedSquared
    semiMajorAxis := axis
    eccentricity := eccentricity
    inclination := signedAngle momentum.z momentumLength 1.0
    ascendingNode := ascendingNode
    pericenter := pericenter
    trueAnomaly := trueAnomaly
    meanAnomaly := meanOfTrueAnomaly trueAnomaly eccentricity
    meanMotion := motion
    period := 2.0 * Scalar.pi / motion
    angularMomentum := momentum
    eccentricityVector := eccentricityVector }

/-- The orbit of `particle` around `reference`.  The gravitational parameter
takes both masses into account. -/
def derive (gravity : α) (particle reference : Particle α) :
    Except OrbitError (Orbit α) :=
  if Scalar.atMost reference.mass tiny then
    .error .masslessReference
  else
    let position := particle.position - reference.position
    let velocity := particle.velocity - reference.velocity
    if Scalar.atMost position.length tiny then
      .error .coincident
    else
      .ok (ofRelativeMotion (gravity * (particle.mass + reference.mass)) position velocity)

def angularMomentumLength (orbit : Orbit α) : α :=
  orbit.angularMomentum.length

end Orbit

end Telemetry
