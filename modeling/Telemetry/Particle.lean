import Telemetry.Vector

/-!
# Particles

A particle carries the state a report can ask for.  Its identifier is what a
simulation knows it by; names are free text and need not be distinct.
-/

namespace Telemetry

/-- The number by which a simulation knows a particle. -/
structure ParticleId where
  value : UInt32
deriving Repr, DecidableEq

structure Particle (α : Type) where
  id : ParticleId
  /-- Free text, rendered as it is. -/
  name : String
  mass : α
  radius : α
  /-- Position relative to the origin of the coordinates. -/
  position : Vec3 α
  velocity : Vec3 α
  acceleration : Vec3 α
deriving Repr, DecidableEq

namespace Particle

variable {α : Type} [Scalar α]

def pointMass (id : ParticleId) (name : String) (mass : α) : Particle α where
  id := id
  name := name
  mass := mass
  radius := 0.0
  position := .zero
  velocity := .zero
  acceleration := .zero

def distance (particle : Particle α) : α :=
  particle.position.length

end Particle

end Telemetry
