import Telemetry.Decimal.Numeral
import Telemetry.EccentricDisk
import Telemetry.Evaluation
import Telemetry.Preview.Command
import Telemetry.ProgramOutput
import Telemetry.Random.Chacha
import Telemetry.Scalar.Binary64
import Telemetry.Simulation.Document
import Telemetry.Template.Parse
import Telemetry.Template.Text
import Telemetry.Text.Column

/-!
# Sessions of the preview shell

A session has a simulation, the seed of generated disks and a format.  A command
changes them and answers with lines of text.  A request that is refused changes
nothing, and the simulation stays valid.
-/

namespace Telemetry

namespace Preview

structure Session where
  simulation : Simulation Float
  seed : UInt64
  format : String

def defaultStars : Nat := 25

def generatedDisk (seed : UInt64) (stars : Nat) : Simulation Float :=
  eccentricDisk (SeededGenerator.ofSeed seed) stars

/-- The commands, for the reader. -/
def helpLines : List String :=
  ["Commands:",
   "  fmt <format>    Parse a format and render it",
   "  render          Render the current format again",
   "  load <path>     Load a snapshot from a RON file",
   "  disk <n>        Generate an eccentric disk of n stars",
   "  seed <n>        Set RNG seed for generated disks",
   "  primary <id>    Measure orbits against a particle ('none' for the barycenter)",
   "  particles       List particles",
   "  tags            List value tokens",
   "  help            Show this help",
   "  quit            Exit"]

/-- The value tokens, for the reader. -/
def tagLines : List String :=
  ["Simulation (#s..):"] ++
    SimulationTag.all.map (fun tag => "  #s" ++ Text.padRight 3 tag.code ++ " " ++ tag.description) ++
    ["Particle (#p.. inside \x7b\x7d, #a.. average, #d.. standard deviation):"] ++
    ParticleTag.all.map (fun tag => "  #p" ++ Text.padRight 3 tag.code ++ " " ++ tag.description)

/-- What a simulation holds, in a few words. -/
def summary (simulation : Simulation Float) : String :=
  "'" ++ simulation.name ++ "': " ++ toString simulation.particles.length ++
    " particles at t=" ++ Scalar.plainText simulation.time

/-- A particle of a simulation in a table of its particles. -/
def particleLine (simulation : Simulation Float) (particle : Particle Float) : String :=
  let orbit :=
    match simulation.orbit particle with
    | .ok orbit =>
        "a=" ++ Scalar.fixedText 4 orbit.semiMajorAxis ++
          " e=" ++ Scalar.fixedText 4 orbit.eccentricity
    | .error cause => "no orbit: " ++ cause.message
  "  " ++ Text.padLeft 4 (toString particle.id.value.toNat) ++
    " " ++ Text.padRight 12 particle.name ++
    " m=" ++ Text.padRight 10 (Scalar.plainText particle.mass) ++
    " d=" ++ Scalar.fixedText 4 particle.distance ++ " " ++ orbit ++
    if some particle.id = simulation.primary? then " (primary)" else ""

namespace Session

/-- The line of the format, between two marks, or why there is none. -/
def render (session : Session) : List String :=
  match Template.parse session.format with
  | .error cause =>
      ["ERROR: " ++ cause.message, "  " ++ session.format,
        "  " ++ Text.spaces cause.offset ++ "^"]
  | .ok template =>
      match template.evaluate session.simulation.snapshot with
      | .ok line => ["", "--- Output ---", line, "--- End ---", ""]
      | .error cause => ["ERROR: " ++ cause.message]

def load (session : Session) (disk : Disk) (path : String) : Session × List String :=
  if path.isEmpty then (session, ["Usage: load <path>"])
  else
    match Simulation.load disk path with
    | .ok loaded => ({ session with simulation := loaded }, ["Loaded " ++ summary loaded])
    | .error cause => (session, ["ERROR: " ++ cause.message])

def generate (session : Session) (argument : String) : Session × List String :=
  let count? :=
    if argument.isEmpty then some defaultStars else countOfChars? UInt64.size argument.toList
  match count? with
  | none => (session, ["Invalid star count: " ++ argument])
  | some count =>
      ({ session with simulation := generatedDisk session.seed count },
        [s!"Generated disk of {count} stars (seed {session.seed})"])

def setSeed (session : Session) (argument : String) : Session × List String :=
  if argument.isEmpty then (session, [s!"Current seed: {session.seed}"])
  else
    match countOfChars? UInt64.size argument.toList with
    | none => (session, ["Invalid seed: " ++ argument])
    | some seed => ({ session with seed := UInt64.ofNat seed }, [s!"Seed set to {seed}"])

def setPrimary (session : Session) (argument : String) : Session × List String :=
  if argument.isEmpty || argument == "none" then
    ({ session with simulation := { session.simulation with primary? := none } },
      ["Orbits measured against the barycenter."])
  else
    match countOfChars? UInt32.size argument.toList with
    | none => (session, ["Invalid particle id: " ++ argument])
    | some value =>
        let id : ParticleId := ⟨UInt32.ofNat value⟩
        match session.simulation.find? id with
        | none => (session, [s!"No particle with id {value}"])
        | some particle =>
            ({ session with simulation := { session.simulation with primary? := some id } },
              ["Orbits measured against '" ++ particle.name ++ s!"' (id={value})"])

/-- Carry out a command: the session after it, and the answer. -/
def respond (session : Session) (disk : Disk) (command : Command) : Session × List String :=
  match command with
  | .nothing => (session, [])
  | .quit => (session, ["Goodbye."])
  | .help => (session, helpLines)
  | .format text =>
      if text.isEmpty then (session, ["Current format: " ++ session.format])
      else
        let session := { session with format := text }
        (session, session.render)
  | .render => (session, session.render)
  | .load path => session.load disk path
  | .generate argument => session.generate argument
  | .seed argument => session.setSeed argument
  | .primary argument => session.setPrimary argument
  | .particles =>
      (session, session.simulation.particles.map (particleLine session.simulation))
  | .tags => (session, tagLines)
  | .unknown word =>
      (session, ["Unknown command: '" ++ word ++ "'. Type 'help' for available commands."])

/-- What a session writes while it reads lines, until the end of the input or
until it is told to end. -/
def transcript (disk : Disk) (session : Session) : List (List Char) → String
  | [] => "preview> "
  | line :: rest =>
      let command := Command.ofLine line
      let (session, answer) := session.respond disk command
      "preview> " ++ lines answer ++
        if command = .quit then "" else transcript disk session rest

end Session

end Preview

end Telemetry
