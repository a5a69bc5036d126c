import Telemetry.Disk.Basic
import Telemetry.Ron.Value
import Telemetry.Simulation.Document

/-!
# Report definitions

A report is defined by where its lines go, how often they are due and what they
show.  Definitions are collected in configuration files.
-/

namespace Telemetry

inductive Destination where
  | console
  | file (path : String)
deriving Repr, DecidableEq

def Destination.text : Destination → String
  | .console => "console"
  | .file path => path

structure ReportSpec (α : Type) where
  destination : Destination
  /-- The simulated time from one line to the next.  With a negative interval
  every update writes a line. -/
  interval : α
  format : String
deriving Repr, DecidableEq

namespace Ron

variable {α : Type} [Scalar α]

def destination? (value : Value) : Option Destination :=
  match value with
  | .name name => if name.text = "Console" then some .console else none
  | .tuple (some name) [.text path] => if name.text = "File" then some (.file path) else none
  | _ => none

/-- The definition of a report.  All of its fields must be given. -/
def reportSpec? (extensions : Extensions) (value : Value) : Option (ReportSpec α) := do
  let dialect := dialect extensions
  let fields ← dialect.record? "ReportSpec" ["destination", "interval", "format"] value
  let destination ← Fields.required? fields "destination" destination?
  let interval ← Fields.required? fields "interval" dialect.scalar?
  let format ← Fields.required? fields "format" dialect.text?
  return { destination := destination, interval := interval, format := format }

def reportConfig? (text : String) : Option (List (ReportSpec α)) := do
  let (extensions, value) ← document? text.toList
  let fields ← (dialect extensions).record? "ReportConfig" ["reports"] value
  Fields.required? fields "reports" fun reports => do
    (← (dialect extensions).list? reports).mapM (reportSpec? extensions)

end Ron

end Telemetry
