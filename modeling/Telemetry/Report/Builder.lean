import Telemetry.Report.Set

/-!
# Setting up reports

The reports of configuration files and of a program are opened together.  All
configuration files are read and all format strings are checked before the first
output file is touched, so that a mistake in one report never empties the file of
another.
-/

namespace Telemetry

/-- Report definitions that are to be opened together. -/
structure ReportSetBuilder (α : Type) where
  configs : List String
  specs : List (ReportSpec α)
deriving Repr, DecidableEq

namespace ReportSetBuilder

variable {α : Type}

def empty : ReportSetBuilder α where
  configs := []
  specs := []

def addConfig (builder : ReportSetBuilder α) (path : String) : ReportSetBuilder α :=
  { builder with configs := builder.configs ++ [path] }

def addReport (builder : ReportSetBuilder α) (spec : ReportSpec α) : ReportSetBuilder α :=
  { builder with specs := builder.specs ++ [spec] }

variable [Scalar α]

/-- All definitions: those of the configuration files in order, then the others. -/
def allSpecs (builder : ReportSetBuilder α) (disk : Disk) :
    Except ReportError (List (ReportSpec α)) := do
  return (← builder.configs.mapM (ReportSpec.loadList disk)).flatten ++ builder.specs

def checkFormat (spec : ReportSpec α) : Except ReportError Unit :=
  match Template.parse spec.format with
  | .error cause => .error (.invalidFormat spec.destination cause)
  | .ok _ => .ok ()

/-- The sink of a destination.  A file is made or emptied. -/
def openSink (destination : Destination) (host : Host) : Except ReportError (HostSink × Host) :=
  match destination with
  | .console => .ok (.console, host)
  | .file path =>
      match host.disk.create path with
      | .error cause => .error (.unopened path cause)
      | .ok (location, disk) => .ok (.file location 0, { host with disk := disk })

/-- Open the destination of a report.  A file begins with a header. -/
def openReport (timestamp : String) (spec : ReportSpec α) (host : Host) :
    Attempt (Option (Report α HostSink)) Host Unit :=
  match openSink spec.destination host with
  | .error cause => { outcome := .error cause, state := none, shared := host }
  | .ok (sink, host) =>
      match Report.make spec sink with
      | .error cause => { outcome := .error cause, state := none, shared := host }
      | .ok report =>
          match spec.destination with
          | .console => { outcome := .ok (), state := some report, shared := host }
          | .file _ =>
              let attempt := report.writeHeader timestamp host
              { outcome := attempt.outcome
                state := some attempt.state
                shared := attempt.shared }

/-- Open reports one after the other up to the first failure. -/
def openAll (timestamp : String) (host : Host) :
    List (ReportSpec α) → Attempt (List (Report α HostSink)) Host Unit
  | [] => { outcome := .ok (), state := [], shared := host }
  | spec :: others =>
      let first := openReport timestamp spec host
      match first.outcome with
      | .error cause =>
          { outcome := .error cause, state := first.state.toList, shared := first.shared }
      | .ok () =>
          let rest := openAll timestamp first.shared others
          { outcome := rest.outcome
            state := first.state.toList ++ rest.state
            shared := rest.shared }

/-- Open all reports, or say what failed first.  The state of the files is
returned in both cases. -/
def build (builder : ReportSetBuilder α) (timestamp : String) (host : Host) :
    Except ReportError (ReportSet α HostSink) × Host :=
  match builder.allSpecs host.disk with
  | .error cause => (.error cause, host)
  | .ok specs =>
      match specs.forM checkFormat with
      | .error cause => (.error cause, host)
      | .ok () =>
          let attempt := openAll timestamp host specs
          (attempt.outcome.map fun _ => { reports := attempt.state }, attempt.shared)

end ReportSetBuilder

end Telemetry
