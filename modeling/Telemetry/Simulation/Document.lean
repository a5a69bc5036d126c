import Telemetry.Disk.Basic
import Telemetry.Json.Value
import Telemetry.Ron.Value
import Telemetry.Simulation

/-!
# Snapshot documents

The state of a simulation is read from a document in either dialect.  A state
that is not valid is not accepted: identifiers must be distinct, and the primary
must be one of the particles.
-/

namespace Telemetry

namespace Dialect

variable {ν α : Type} [Scalar α] (dialect : Dialect ν)

def scalar? (value : ν) : Option α :=
  (dialect.numeral? value).map Scalar.ofNumeral

def count? (limit : Nat) (value : ν) : Option Nat :=
  (dialect.natural? value).filter (· < limit)

def vector? (value : ν) : Option (Vec3 α) := do
  let fields ← dialect.record? "Vec3" ["x", "y", "z"] value
  let x ← fields.required? "x" dialect.scalar?
  let y ← fields.required? "y" dialect.scalar?
  let z ← fields.required? "z" dialect.scalar?
  return { x := x, y := y, z := z }

def particleId? (value : ν) : Option ParticleId := do
  let value ← dialect.wrapped? "ParticleId" value
  return ⟨UInt32.ofNat (← dialect.count? UInt32.size value)⟩

/-- A particle.  It has an identifier, a mass and a position. -/
def particle? (value : ν) : Option (Particle α) := do
  let fields ← dialect.record? "Particle"
    ["id", "name", "mass", "radius", "position", "velocity", "acceleration"] value
  let id ← fields.required? "id" dialect.particleId?
  let name ← fields.optional? "name" "" dialect.text?
  let mass ← fields.required? "mass" dialect.scalar?
  let radius ← fields.optional? "radius" 0.0 dialect.scalar?
  let position ← fields.required? "position" dialect.vector?
  let velocity ← fields.optional? "velocity" .zero dialect.vector?
  let acceleration ← fields.optional? "acceleration" .zero dialect.vector?
  return {
    id := id, name := name, mass := mass, radius := radius
    position := position, velocity := velocity, acceleration := acceleration }

/-- The identifier of the primary, which may be absent. -/
def primary? (value : ν) : Option (Option ParticleId) := do
  match ← dialect.optional? value with
  | none => return none
  | some value => return some (← dialect.particleId? value)

/-- The state of a simulation.  Only the particles must be given. -/
def simulation? (value : ν) : Option (Simulation α) := do
  let fields ← dialect.record? "SimulationState"
    ["name", "time", "last_dt", "integrator", "gravity", "step_count", "wall_time",
      "wall_resolution", "primary", "particles"] value
  let default : Simulation α := .empty
  let name ← fields.optional? "name" default.name dialect.text?
  let time ← fields.optional? "time" default.time dialect.scalar?
  let lastStep ← fields.optional? "last_dt" default.lastStep dialect.scalar?
  let integrator ← fields.optional? "integrator" default.integrator dialect.text?
  let gravity ← fields.optional? "gravity" default.gravity dialect.scalar?
  let stepCount ← fields.optional? "step_count" 0 (dialect.count? UInt64.size)
  let wallTime ← fields.optional? "wall_time" default.wallTime dialect.scalar?
  let wallResolution ←
    fields.optional? "wall_resolution" default.wallResolution dialect.scalar?
  let primary ← fields.optional? "primary" none dialect.primary?
  let particles ← fields.required? "particles" fun value => do
    (← dialect.list? value).mapM dialect.particle?
  return {
    name := name, time := time, lastStep := lastStep, integrator := integrator
    gravity := gravity, stepCount := UInt64.ofNat stepCount, wallTime := wallTime
    wallResolution := wallResolution, primary? := primary, particles := particles }

end Dialect

inductive LoadError where
  | io (cause : IoError)
  | malformedRon
  | malformedJson
  | invalid (cause : SimulationError)
deriving Repr, DecidableEq

def LoadError.message : LoadError → String
  | .io cause => "IO error: " ++ cause.message
  | .malformedRon => "RON deserialization error: the document is not a snapshot"
  | .malformedJson => "JSON deserialization error: the document is not a snapshot"
  | .invalid cause => cause.message

namespace Simulation

variable {α : Type} [Scalar α]

/-- A simulation, if it is valid. -/
def checked (simulation : Simulation α) : Except LoadError (Simulation α) :=
  match simulation.validate with
  | .ok () => .ok simulation
  | .error cause => .error (.invalid cause)

def ofRon (text : String) : Except LoadError (Simulation α) :=
  match Ron.document? text.toList with
  | none => .error .malformedRon
  | some (extensions, value) =>
      match (Ron.dialect extensions).simulation? value with
      | none => .error .malformedRon
      | some simulation => simulation.checked

def ofJson (text : String) : Except LoadError (Simulation α) :=
  match (Json.document? text.toList).bind Json.dialect.simulation? with
  | none => .error .malformedJson
  | some simulation => simulation.checked

def load (disk : Disk) (path : String) : Except LoadError (Simulation α) :=
  match disk.read path with
  | .error cause => .error (.io cause)
  | .ok text => ofRon text

end Simulation

end Telemetry
