import Telemetry.Orbit.Elements
import Telemetry.Random.Source
import Telemetry.Simulation

/-!
# The eccentric disk

A generated system: light stars on eccentric, nearly coplanar orbits around a
central body of unit mass.
-/

namespace Telemetry

namespace EccentricDisk

variable {α : Type} [Scalar α] {σ : Type} [RandomSource σ]

def centralBody : Particle α :=
  Particle.pointMass ⟨0⟩ "bh" 1.0

def elements (source : σ) : Elements α × σ :=
  let (semiMajorAxis, source) := RandomSource.between 1.1 1.7 source
  let (eccentricity, source) := RandomSource.between 0.65 0.75 source
  let (inclination, source) := RandomSource.normal 3e-2 source
  let (phase, source) := RandomSource.normal (Scalar.pi / 4.0) source
  ({ semiMajorAxis := semiMajorAxis
     eccentricity := eccentricity
     inclination := inclination
     ascendingNode := 0.0
     pericenter := 0.0
     trueAnomaly := phase + Scalar.pi }, source)

def star (number : Nat) (elements : Elements α) : Particle α :=
  { elements.particle 1.0 centralBody ⟨UInt32.ofNat number⟩ 1e-3 with
    name := "star" ++ toString number }

/-- A number of stars, counted on from `number`. -/
def stars (count number : Nat) (source : σ) : List (Particle α) :=
  match count with
  | 0 => []
  | count + 1 =>
      let (elements, source) := elements source
      star number elements :: stars count (number + 1) source

end EccentricDisk

/-- A disk with a number of stars, in the frame of its barycenter. -/
def eccentricDisk {α : Type} [Scalar α] {σ : Type} [RandomSource σ] (source : σ)
    (count : Nat) : Simulation α :=
  Simulation.moveToBarycenter
    { Simulation.empty with
      name := "eccentric_disk"
      integrator := "ias15"
      particles := EccentricDisk.centralBody :: EccentricDisk.stars count 1 source }

end Telemetry
