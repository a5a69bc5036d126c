import Telemetry.Snapshot

/-!
# Simulations

The owned state of a simulation.  Identifiers of a valid state are distinct, and
a primary, if one is set, is one of its particles.  Orbits are measured against
the primary, or against the barycenter when there is none.
-/

namespace Telemetry

/-- The body that stands for a list of particles: it has their total mass, and
their mean position and velocity weighted by mass.  Without positive mass it
rests at the origin. -/
def barycenter {α : Type} [Scalar α] (particles : List (Particle α)) : Particle α :=
  let mass := particles.foldl (fun total particle => total + particle.mass) 0.0
  let position := particles.foldl
    (fun total particle => total + particle.position * particle.mass) Vec3.zero
  let velocity := particles.foldl
    (fun total particle => total + particle.velocity * particle.mass) Vec3.zero
  let body := Particle.pointMass ⟨0xffffffff⟩ "barycenter" mass
  if Scalar.less 0.0 mass then
    { body with position := position / mass, velocity := velocity / mass }
  else body

/-- Why the state of a simulation is not valid. -/
inductive SimulationError where
  | duplicateId (id : ParticleId)
  | missingPrimary (id : ParticleId)
deriving Repr, DecidableEq

namespace ParticleId

def text (id : ParticleId) : String :=
  "ParticleId(" ++ toString id.value.toNat ++ ")"

end ParticleId

def SimulationError.message : SimulationError → String
  | .duplicateId id => "duplicate particle id " ++ id.text
  | .missingPrimary id => "primary particle " ++ id.text ++ " is not in the snapshot"

structure Simulation (α : Type) where
  name : String
  time : α
  lastStep : α
  integrator : String
  gravity : α
  stepCount : UInt64
  wallTime : α
  wallResolution : α
  /-- The particle that orbits are measured against. -/
  primary? : Option ParticleId
  particles : List (Particle α)
deriving Repr, DecidableEq

namespace Simulation

variable {α : Type} [Scalar α]

/-- A simulation without particles, in units in which the gravitational constant
is one and the wall clock counts nanoseconds. -/
def empty : Simulation α where
  name := ""
  time := 0.0
  lastStep := 0.0
  integrator := ""
  gravity := 1.0
  stepCount := 0
  wallTime := 0.0
  wallResolution := 1e-9
  primary? := none
  particles := []

/-- The first identifier in a list that is among those before it or in `seen`. -/
def firstRepeated? (seen : List ParticleId) : List ParticleId → Option ParticleId
  | [] => none
  | id :: rest => if id ∈ seen then some id else firstRepeated? (id :: seen) rest

/-- Check that identifiers are distinct and that the primary exists. -/
def validate (simulation : Simulation α) : Except SimulationError Unit :=
  let ids := simulation.particles.map (·.id)
  match firstRepeated? [] ids with
  | some id => .error (.duplicateId id)
  | none =>
      match simulation.primary? with
      | some id => if id ∈ ids then .ok () else .error (.missingPrimary id)
      | none => .ok ()

def indexOf? (simulation : Simulation α) (id : ParticleId) : Option Nat :=
  simulation.particles.findIdx? (·.id = id)

def find? (simulation : Simulation α) (id : ParticleId) : Option (Particle α) :=
  simulation.particles.find? (·.id = id)

def primaryParticle? (simulation : Simulation α) : Option (Particle α) :=
  simulation.primary?.bind simulation.find?

/-- The body that orbits are measured against: the primary, or else the
barycenter. -/
def referenceBody (simulation : Simulation α) : Particle α :=
  simulation.primaryParticle?.getD (barycenter simulation.particles)

def orbit (simulation : Simulation α) (particle : Particle α) :
    Except OrbitError (Orbit α) :=
  Orbit.derive simulation.gravity particle simulation.referenceBody

def snapshot (simulation : Simulation α) : Snapshot α where
  name := simulation.name
  time := simulation.time
  lastStep := simulation.lastStep
  integrator := simulation.integrator
  gravity := simulation.gravity
  stepCount := simulation.stepCount
  wallTime := simulation.wallTime
  wallResolution := simulation.wallResolution
  bodies := simulation.particles.map fun particle =>
    { particle := particle, orbit := simulation.orbit particle }

def push (simulation : Simulation α) (particle : Particle α) : Simulation α :=
  { simulation with particles := simulation.particles ++ [particle] }

/-- The particle at a position, and the simulation without it. -/
def remove? (simulation : Simulation α) (index : Nat) :
    Option (Particle α × Simulation α) :=
  simulation.particles[index]?.map fun particle =>
    (particle, { simulation with particles := simulation.particles.eraseIdx index })

/-- Shift positions and velocities so that the barycenter rests at the origin. -/
def moveToBarycenter (simulation : Simulation α) : Simulation α :=
  let center := barycenter simulation.particles
  { simulation with
    particles := simulation.particles.map fun particle =>
      { particle with
        position := particle.position - center.position
        velocity := particle.velocity - center.velocity } }

end Simulation

end Telemetry
