import Telemetry.Orbit.Basic

/-!
# Orbital elements

The six elements that place a body on an orbit, and the construction of a
particle from them.  It is the inverse of deriving an orbit.
-/

namespace Telemetry

/-- Shape, orientation and phase of an orbit. -/
structure Elements (α : Type) where
  semiMajorAxis : α
  eccentricity : α
  inclination : α
  ascendingNode : α
  pericenter : α
  trueAnomaly : α
deriving Repr, DecidableEq

namespace Elements

variable {α : Type} [Scalar α]

def radius (elements : Elements α) : α :=
  elements.semiMajorAxis * (1.0 - elements.eccentricity * elements.eccentricity) /
    (1.0 + elements.eccentricity * Scalar.cos elements.trueAnomaly)

def position (elements : Elements α) : Vec3 α :=
  let sinNode := Scalar.sin elements.ascendingNode
  let cosNode := Scalar.cos elements.ascendingNode
  let sinPericenter := Scalar.sin elements.pericenter
  let cosPericenter := Scalar.cos elements.pericenter
  let sinAnomaly := Scalar.sin elements.trueAnomaly
  let cosAnomaly := Scalar.cos elements.trueAnomaly
  let sinTilt := Scalar.sin elements.inclination
  let cosTilt := Scalar.cos elements.inclination
  let sinLatitude := sinPericenter * cosAnomaly + cosPericenter * sinAnomaly
  let cosLatitude := cosPericenter * cosAnomaly - sinPericenter * sinAnomaly
  let radius := elements.radius
  { x := radius * (cosNode * cosLatitude - sinNode * sinLatitude * cosTilt)
    y := radius * (sinNode * cosLatitude + cosNode * sinLatitude * cosTilt)
    z := radius * sinLatitude * sinTilt }

/-- Velocity of the body relative to the focus, under a gravitational
parameter. -/
def velocity (parameter : α) (elements : Elements α) : Vec3 α :=
  let eccentricity := elements.eccentricity
  let speed :=
    Scalar.sqrt (parameter / (elements.semiMajorAxis * (1.0 - eccentricity * eccentricity)))
  let sinNode := Scalar.sin elements.ascendingNode
  let cosNode := Scalar.cos elements.ascendingNode
  let sinPericenter := Scalar.sin elements.pericenter
  let cosPericenter := Scalar.cos elements.pericenter
  let sinAnomaly := Scalar.sin elements.trueAnomaly
  let cosAnomaly := Scalar.cos elements.trueAnomaly
  let sinTilt := Scalar.sin elements.inclination
  let cosTilt := Scalar.cos elements.inclination
  { x := speed *
      ((eccentricity + cosAnomaly) * (-cosTilt * cosPericenter * sinNode - cosNode * sinPericenter) -
        sinAnomaly * (cosPericenter * cosNode - cosTilt * sinPericenter * sinNode))
    y := speed *
      ((eccentricity + cosAnomaly) * (cosTilt * cosPericenter * cosNode - sinNode * sinPericenter) -
        sinAnomaly * (cosPericenter * sinNode + cosTilt * sinPericenter * cosNode))
    z := speed *
      ((eccentricity + cosAnomaly) * cosPericenter * sinTilt -
        sinAnomaly * sinTilt * sinPericenter) }

/-- The unnamed particle of a given mass on the orbit around `primary`. -/
def particle (gravity : α) (primary : Particle α) (id : ParticleId) (mass : α)
    (elements : Elements α) : Particle α :=
  { Particle.pointMass id "" mass with
    position := primary.position + elements.position
    velocity := primary.velocity + elements.velocity (gravity * (mass + primary.mass)) }

end Elements

end Telemetry
