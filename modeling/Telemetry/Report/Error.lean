import Telemetry.Evaluation
import Telemetry.Report.Spec
import Telemetry.Template.Error
import Telemetry.Text.Quoted

/-!
# Failures of reports
-/

namespace Telemetry

/-- Why a report could not be set up, or could not write a line. -/
inductive ReportError where
  | invalidFormat (destination : Destination) (cause : TemplateError)
  | evaluation (cause : EvaluationError)
  | unopened (path : String) (cause : IoError)
  | io (cause : IoError)
  | malformedConfig
deriving Repr, DecidableEq

def ReportError.message : ReportError → String
  | .invalidFormat destination cause =>
      "invalid format for " ++ destination.text ++ ": " ++ cause.message
  | .evaluation cause => "evaluation error: " ++ cause.message
  | .unopened path cause =>
      "could not open output file " ++ Text.quoted path ++ " for writing: " ++ cause.message
  | .io cause => "IO error: " ++ cause.message
  | .malformedConfig => "RON error: the document is not a report configuration"

def ReportSpec.listOfRon {α : Type} [Scalar α] (text : String) :
    Except ReportError (List (ReportSpec α)) :=
  match Ron.reportConfig? text with
  | none => .error .malformedConfig
  | some specs => .ok specs

def ReportSpec.loadList {α : Type} [Scalar α] (disk : Disk) (path : String) :
    Except ReportError (List (ReportSpec α)) :=
  match disk.read path with
  | .error cause => .error (.io cause)
  | .ok text => listOfRon text

end Telemetry
