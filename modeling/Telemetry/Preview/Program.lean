import Telemetry.Preview.Session
import Telemetry.Text.Split

/-!
# The preview shell

A program that renders formats against a snapshot, which it loads or generates,
while the reader tries them out.
-/

namespace Telemetry

namespace Preview

structure Options where
  snapshot? : Option String
  stars : Nat
  seed : UInt64
  format : String
deriving Repr, DecidableEq

/-- What the arguments of the program ask for. -/
inductive Invocation where
  | help
  | unknown (argument : String)
  | start (options : Options)
deriving Repr, DecidableEq

def Options.default : Options where
  snapshot? := none
  stars := defaultStars
  seed := 42
  format := "#st, #sc: \x7b#pa,#pe;\x7d #sG, #ajv, #djv, \x7b#pj,\x7d"

/-- Read arguments from left to right; later ones replace earlier ones.  Numbers
that cannot be read stand for the defaults. -/
def Invocation.ofArguments (options : Options) : List String → Invocation
  | [] => .start options
  | argument :: rest =>
      if argument = "--help" ∨ argument = "-h" then .help
      else
        match rest with
        | [] => .unknown argument
        | value :: rest =>
            if argument = "--snapshot" then
              ofArguments { options with snapshot? := some value } rest
            else if argument = "--disk" then
              let stars := (countOfChars? UInt64.size value.toList).getD Options.default.stars
              ofArguments { options with stars := stars } rest
            else if argument = "--seed" then
              let seed := ((countOfChars? UInt64.size value.toList).map UInt64.ofNat).getD
                Options.default.seed
              ofArguments { options with seed := seed } rest
            else if argument = "--format" then
              ofArguments { options with format := value } rest
            else .unknown argument

def usage : List String :=
  ["Preview: interactive shell for rendering report formats.",
   "",
   "Usage: preview [--snapshot <path>] [--disk <n>] [--seed <n>] [--format <fmt>]",
   "",
   "  --snapshot <path>  RON snapshot to render against",
   "  --disk <n>         Stars in the generated disk when no snapshot is given (default: 25)",
   "  --seed <n>         RNG seed for generated disks (default: 42)",
   "  --format <fmt>     Initial format"]

/-- The simulation that a session starts with, and what is said about where it
comes from. -/
def Options.simulation (options : Options) (disk : Disk) :
    Except String (Simulation Float × List String) :=
  match options.snapshot? with
  | none => .ok (generatedDisk options.seed options.stars, [])
  | some path =>
      match Simulation.load disk path with
      | .ok loaded => .ok (loaded, ["Loaded snapshot: " ++ path])
      | .error cause => .error ("ERROR loading snapshot " ++ path ++ ": " ++ cause.message)

/-- A new session, and the lines it opens with. -/
def Options.session (options : Options) (disk : Disk) : Except String (Session × List String) :=
  (options.simulation disk).map fun (simulation, said) =>
    let session : Session :=
      { simulation := simulation, seed := options.seed, format := options.format }
    (session,
      said ++ ["Snapshot " ++ summary simulation, "Type 'help' for commands.", ""] ++
        session.render)

def runSession (options : Options) (input : String) (disk : Disk) : ProgramOutput :=
  match options.session disk with
  | .error message =>
      { exitCode := 1, standardOutput := "", standardError := lines [message] }
  | .ok (session, opening) =>
      { exitCode := 0
        standardOutput := lines opening ++ session.transcript disk (Text.splitLines input.toList)
        standardError := "" }

def run (arguments : List String) (input : String) (disk : Disk) : ProgramOutput :=
  match Invocation.ofArguments .default arguments with
  | .help => { exitCode := 0, standardOutput := lines usage, standardError := "" }
  | .unknown argument =>
      { exitCode := 1
        standardOutput := lines usage
        standardError := lines ["Unknown argument: " ++ argument] }
  | .start options => runSession options input disk

end Preview

end Telemetry
