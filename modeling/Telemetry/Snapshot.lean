import Telemetry.Orbit.Basic

/-!
# Snapshots

A snapshot is everything a report line can ask of a simulation at one moment:
the quantities of the simulation, and for each particle its own state and its
orbit around the reference body, or why it has none.
-/

namespace Telemetry

/-- A particle together with its orbit. -/
structure Body (α : Type) where
  particle : Particle α
  orbit : Except OrbitError (Orbit α)

/-- The state of a simulation at one moment. -/
structure Snapshot (α : Type) where
  name : String
  time : α
  lastStep : α
  integrator : String
  gravity : α
  stepCount : UInt64
  wallTime : α
  wallResolution : α
  bodies : List (Body α)

namespace Snapshot

def particleCount {α : Type} (snapshot : Snapshot α) : Nat :=
  snapshot.bodies.length

end Snapshot

end Telemetry
