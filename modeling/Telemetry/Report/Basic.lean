import Telemetry.Report.Error
import Telemetry.Report.Sink
import Telemetry.Template.Parse

/-!
# Reports

A report renders a template into a sink on a schedule.  The first update writes a
line; later updates write one when at least an interval of simulated time has
passed since the last line.  An update that fails writes nothing and leaves the
schedule as it was.
-/

namespace Telemetry

/-- A format bound to a sink and a schedule. -/
structure Report (α σ : Type) where
  destination : Destination
  format : String
  template : Template
  /-- The format string stands for the template. -/
  parse_format : Template.parse format = .ok template
  /-- The simulated time from one line to the next. -/
  interval : α
  lastEmission? : Option α
  sink : σ

/-- What an operation that may fail leaves behind. -/
structure Attempt (ρ ω β : Type) where
  outcome : Except ReportError β
  state : ρ
  shared : ω

namespace Report

variable {α σ ω : Type}

/-- A report that has written nothing yet.  The format string must be right. -/
def make (spec : ReportSpec α) (sink : σ) : Except ReportError (Report α σ) :=
  match parsed : Template.parse spec.format with
  | .error cause => .error (.invalidFormat spec.destination cause)
  | .ok template => .ok
      { destination := spec.destination
        format := spec.format
        template := template
        parse_format := parsed
        interval := spec.interval
        lastEmission? := none
        sink := sink }

variable [Scalar α]

def isDue (report : Report α σ) (time : α) : Bool :=
  match report.lastEmission? with
  | none => true
  | some last =>
      Scalar.less report.interval 0.0 || Scalar.atMost report.interval (time - last)

/-- The lines that open a file, with the time it was opened at. -/
def header (timestamp : String) (report : Report α σ) : String :=
  "# filename: " ++ report.destination.text ++ "\n" ++
    "# timestamp: " ++ timestamp ++ "\n" ++
    "# output timing: " ++ Scalar.plainText report.interval ++ "\n" ++
    "# format: " ++ report.format ++ "\n"

variable [Sink σ ω]

def writeHeader (timestamp : String) (report : Report α σ) (shared : ω) :
    Attempt (Report α σ) ω Unit :=
  match Sink.write (report.header timestamp) report.sink shared with
  | .error cause => { outcome := .error (.io cause), state := report, shared := shared }
  | .ok (sink, shared) =>
      { outcome := .ok (), state := { report with sink := sink }, shared := shared }

/-- Write a line if one is due, and say whether one was written. -/
def update (report : Report α σ) (snapshot : Snapshot α) (shared : ω) :
    Attempt (Report α σ) ω Bool :=
  if !report.isDue snapshot.time then
    { outcome := .ok false, state := report, shared := shared }
  else
    match report.template.evaluate snapshot with
    | .error cause => { outcome := .error (.evaluation cause), state := report, shared := shared }
    | .ok line =>
        match Sink.write (line ++ "\n") report.sink shared with
        | .error cause => { outcome := .error (.io cause), state := report, shared := shared }
        | .ok (sink, shared) =>
            { outcome := .ok true
              state := { report with lastEmission? := some snapshot.time, sink := sink }
              shared := shared }

end Report

end Telemetry
