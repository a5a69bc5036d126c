import Telemetry.Lint.Explanation
import Telemetry.ProgramOutput
import Telemetry.Report.Error
import Telemetry.Scalar.Binary64

/-!
# The format linter

A program that checks a format string, a configuration file, or all
configuration files below a folder.  It fails if the findings contain an error,
or if the one file that it was given cannot be read.
-/

namespace Telemetry

namespace Linter

def usage : List String :=
  ["Usage: format_linter <format | config.ron | config_dir> [--explain] [--stats]",
   "       format_linter --tags"]

structure Loaded where
  specs : List (ReportSpec Float)
  progress : List String
  failures : List String

/-- Add the definitions of one configuration file in a folder. -/
def Loaded.add (disk : Disk) (loaded : Loaded) (location : Location) (path : String) : Loaded :=
  match (disk.readAt location).mapError ReportError.io >>= ReportSpec.listOfRon with
  | .ok specs =>
      { loaded with
        specs := loaded.specs ++ specs
        progress := loaded.progress ++ ["  Loaded: " ++ path] }
  | .error cause =>
      { loaded with
        failures := loaded.failures ++ ["  ERROR loading " ++ path ++ ": " ++ cause.message] }

/-- The configuration files below a folder: the names that lead to them. -/
def configsBelow (disk : Disk) (folder : Location) : List Location :=
  (disk.filesBelow folder).filter fun names =>
    (names.getLast?.bind Path.extension?) = some "ron"

/-- The definitions of all configuration files below a folder. -/
def loadFolder (disk : Disk) (path : String) (folder : Location) : Loaded :=
  (configsBelow disk folder).foldl
    (fun loaded names => loaded.add disk (folder ++ names) (names.foldl Path.join path))
    { specs := [], progress := [], failures := [] }

/-- The definitions that a target stands for.  What is no path is a format
string. -/
def load (disk : Disk) (target : String) : Except ReportError Loaded :=
  if disk.isFile target then
    (ReportSpec.loadList disk target).map fun specs =>
      { specs := specs, progress := [], failures := [] }
  else if disk.isFolder target then
    (disk.locate target).toOption.elim
      (.ok { specs := [], progress := [], failures := [] })
      (fun folder => .ok (loadFolder disk target folder))
  else
    .ok
      { specs := [{ destination := .console, interval := -1.0, format := target }]
        progress := []
        failures := [] }

def report (findings : Findings Float) (showsUsage : Bool) : List String :=
  ["", "=== Format Lint Report ===", ""] ++
    (if findings.errors.isEmpty && findings.warnings.isEmpty then ["All checks passed!"]
     else []) ++
    findings.warnings.map ("WARNING: " ++ ·.message) ++
    findings.errors.map ("ERROR: " ++ ·.message) ++
    (if showsUsage then Explanation.ofUsage findings.usage else []) ++
    ["", s!"Summary: {findings.errors.length} errors, {findings.warnings.length} warnings"]

def check (disk : Disk) (target : String) (options : List String) : ProgramOutput :=
  match load disk target with
  | .error cause =>
      { exitCode := 1
        standardOutput := ""
        standardError := lines ["ERROR: Failed to load report config: " ++ cause.message] }
  | .ok loaded =>
      let findings := Findings.ofSpecs loaded.specs
      let explanation :=
        if options.contains "--explain" then
          (loaded.specs.filterMap Findings.sound?).flatMap fun (spec, template) =>
            Explanation.ofSpec spec template
        else []
      { exitCode := if findings.errors.isEmpty then 0 else 1
        standardOutput := lines
          (loaded.progress ++ [s!"Loaded {loaded.specs.length} report formats"] ++
            explanation ++ report findings (options.contains "--stats"))
        standardError := lines loaded.failures }

def run (arguments : List String) (disk : Disk) : ProgramOutput :=
  let shown (text : List String) : ProgramOutput :=
    { exitCode := 0, standardOutput := lines text, standardError := "" }
  match arguments with
  | [] => shown usage
  | target :: options =>
      if target = "--help" ∨ target = "-h" then shown usage
      else if target = "--tags" then shown Explanation.vocabulary
      else check disk target options

end Linter

end Telemetry
