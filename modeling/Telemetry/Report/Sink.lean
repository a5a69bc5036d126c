import Telemetry.Disk.Basic

/-!
# Sinks

A sink takes the text of a report.  It either accepts a text as a whole or
refuses it as a whole.  Sinks may share something, such as the files that several
of them write to.
-/

namespace Telemetry

/-- Sinks of type `σ` that share a state of type `ω`. -/
class Sink (σ : Type) (ω : outParam Type) where
  /-- Write a text, or refuse it and leave everything as it was. -/
  write : (text : String) → σ → ω → Except IoError (σ × ω)

/-- A sink that collects what it is given, and that can be broken. -/
structure MemorySink where
  isBroken : Bool
  contents : String
deriving Repr, DecidableEq

def MemorySink.empty : MemorySink where
  isBroken := false
  contents := ""

instance : Sink MemorySink Unit where
  write text sink shared :=
    if sink.isBroken then .error .brokenSink
    else .ok ({ sink with contents := sink.contents ++ text }, shared)

/-- The files and the console that reports write to. -/
structure Host where
  disk : Disk
  console : String
deriving Repr, DecidableEq

inductive HostSink where
  | console
  /-- A file, and the position behind what this sink wrote to it last. -/
  | file (location : Location) (position : Nat)
deriving Repr, DecidableEq

instance : Sink HostSink Host where
  write text sink host :=
    match sink with
    | .console => .ok (sink, { host with console := host.console ++ text })
    | .file location position =>
        let written := bytesOfText text
        .ok (.file location (position + written.length),
          { host with disk := host.disk.writeAt location position written })

end Telemetry
