import Telemetry.EccentricDisk
import Telemetry.Evaluation
import Telemetry.Random.Chacha
import Telemetry.Scalar.Binary64
import Telemetry.Simulation.Document
import Telemetry.Template.Parse
import Telemetry.Template.Text

/-!
# The playground

What a page for trying out formats needs: a check of formats, a list of the value
tokens, and a simulation to render against.  A request that is refused leaves the
simulation as it was, and the simulation stays valid.
-/

namespace Telemetry

/-- What is told about a format string. -/
structure Validation where
  error? : Option String
  offset? : Option Nat
  canonical? : Option String
deriving Repr, DecidableEq

def Validation.isOk (validation : Validation) : Bool :=
  validation.error?.isNone

structure TokenInfo where
  token : String
  description : String
  kind : String
  isAggregable : Bool
deriving Repr, DecidableEq

structure ParticleInfo (α : Type) where
  id : ParticleId
  name : String
  mass : α
  semiMajorAxis? : Option α
  eccentricity? : Option α
deriving Repr, DecidableEq

structure SnapshotInfo (α : Type) where
  name : String
  time : α
  primary? : Option ParticleId
  particles : List (ParticleInfo α)
deriving Repr, DecidableEq

inductive PlaygroundError where
  | snapshot (cause : LoadError)
  | missingParticle (id : ParticleId)
  | format (cause : TemplateError)
  | evaluation (cause : EvaluationError)
deriving Repr, DecidableEq

def PlaygroundError.message : PlaygroundError → String
  | .snapshot cause => "Invalid snapshot: " ++ cause.message
  | .missingParticle id => "No particle with id " ++ toString id.value.toNat
  | .format cause => "Format error: " ++ cause.message
  | .evaluation cause => "Evaluation error: " ++ cause.message

structure Playground where
  simulation : Simulation Float

namespace Playground

def validate (format : String) : Validation :=
  match Template.parse format with
  | .ok template => { error? := none, offset? := none, canonical? := some template.text }
  | .error cause =>
      { error? := some cause.message, offset? := some cause.offset, canonical? := none }

/-- The kind of a value, in one word. -/
def kindWord : ValueKind → String
  | .scalar => "scalar"
  | .vector => "vector"
  | .text => "string"
  | .integer => "integer"

/-- All value tokens: those of the simulation, then those of particles. -/
def vocabulary : List TokenInfo :=
  SimulationTag.all.map (fun tag =>
    { token := tag.token, description := tag.description, kind := kindWord tag.kind
      isAggregable := false }) ++
  ParticleTag.all.map (fun tag =>
    { token := tag.token, description := tag.description, kind := kindWord tag.kind
      isAggregable := tag.isAggregable })

def generate (seed : UInt64) (stars : Nat) : Playground where
  simulation := eccentricDisk (SeededGenerator.ofSeed seed) stars

def loadSnapshot (_playground : Playground) (document : String) :
    Except PlaygroundError Playground :=
  match Simulation.ofJson document with
  | .ok simulation => .ok { simulation := simulation }
  | .error cause => .error (.snapshot cause)

/-- Measure orbits against a particle, or against the barycenter. -/
def setPrimary (playground : Playground) (id? : Option ParticleId) :
    Except PlaygroundError Playground :=
  match id? with
  | none => .ok { simulation := { playground.simulation with primary? := none } }
  | some id =>
      if (playground.simulation.find? id).isSome then
        .ok { simulation := { playground.simulation with primary? := some id } }
      else .error (.missingParticle id)

def render (playground : Playground) (format : String) : Except PlaygroundError String :=
  match Template.parse format with
  | .error cause => .error (.format cause)
  | .ok template =>
      (template.evaluate playground.simulation.snapshot).mapError .evaluation

def snapshotInfo (playground : Playground) : SnapshotInfo Float :=
  let simulation := playground.simulation
  { name := simulation.name
    time := simulation.time
    primary? := simulation.primary?
    particles := simulation.particles.map fun particle =>
      let orbit? := (simulation.orbit particle).toOption
      { id := particle.id
        name := particle.name
        mass := particle.mass
        semiMajorAxis? := orbit?.map (·.semiMajorAxis)
        eccentricity? := orbit?.map (·.eccentricity) } }

end Playground

end Telemetry
