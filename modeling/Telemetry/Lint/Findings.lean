import Telemetry.Disk.Path
import Telemetry.Report.Spec
import Telemetry.Template.Parse
import Telemetry.Template.Text
import Telemetry.Text.Column
import Telemetry.Text.Quoted

/-!
# Findings about report definitions

What is wrong with report definitions and what is likely not meant.  A format
string that is at fault is an error, and so are several reports that write to one
file.  The value tokens of the sound format strings are counted.
-/

namespace Telemetry

def withKey {β κ : Type} [DecidableEq κ] (key : β → κ) (value : κ) (members : List β) : List β :=
  members.filter (key · = value)

def withoutKey {β κ : Type} [DecidableEq κ] (key : β → κ) (value : κ) (members : List β) :
    List β :=
  members.filter (key · ≠ value)

/-- The members of a list that differ by a key, each with the number of members
that share its key.  Of several members with one key the first is kept. -/
def tally {β κ : Type} [DecidableEq κ] (key : β → κ) (members : List β) : List (β × Nat) :=
  match members with
  | [] => []
  | first :: rest =>
      (first, (withKey key (key first) (first :: rest)).length) ::
        tally key (withoutKey key (key first) rest)
termination_by members.length
decreasing_by exact Nat.lt_succ_of_le (List.length_filter_le _ rest)

namespace Template

def itemTokens : Item → List String
  | .literal _ => []
  | item => [item.text]

/-- The value tokens of a node, in order. -/
def nodeTokens : Node → List String
  | .literal _ => []
  | .group block => block.items.flatMap itemTokens
  | node => [node.text]

/-- The value tokens of a template, in order, those inside groups included. -/
def valueTokens (template : Template) : List String :=
  template.nodes.flatMap nodeTokens

def isConstant (template : Template) : Bool :=
  template.nodes.all fun
    | .literal _ => true
    | _ => false

def endsWithLiteral (group : Group) : Bool :=
  match group.items.getLast? with
  | some (.literal _) => true
  | _ => false

/-- The groups before the last node that end with a literal. -/
def keptSeparators (template : Template) : List Group :=
  template.nodes.dropLast.filterMap fun
    | .group block => if endsWithLiteral block then some block else none
    | _ => none

end Template

/-- What is wrong with report definitions. -/
inductive LintError (α : Type) where
  | rejectedFormat (spec : ReportSpec α) (cause : TemplateError)
  | sharedFile (path : String) (count : Nat)
deriving Repr, DecidableEq

inductive LintWarning (α : Type) where
  | zeroInterval (spec : ReportSpec α)
  /-- The format string has no value tokens outside of groups, and no groups. -/
  | noValues (spec : ReportSpec α)
  /-- A group keeps the separator behind the last particle. -/
  | keptSeparator (spec : ReportSpec α) (group : Group)
deriving Repr, DecidableEq

/-- The two lines under an error message that point at a fault. -/
def pointer (indent : Nat) (format : String) (cause : TemplateError) : List String :=
  [Text.spaces indent ++ format, Text.spaces (indent + cause.offset) ++ "^"]

def LintError.message {α : Type} : LintError α → String
  | .rejectedFormat spec cause =>
      "\n".intercalate
        ((spec.destination.text ++ ": " ++ cause.message) :: pointer 4 spec.format cause)
  | .sharedFile path count =>
      s!"{count} reports write to {path}; each would truncate the others"

def LintWarning.message {α : Type} : LintWarning α → String
  | .zeroInterval spec =>
      spec.destination.text ++
        ": interval 0 emits on every update; use a negative interval to say so"
  | .noValues spec =>
      spec.destination.text ++ ": format " ++ Text.quoted spec.format ++ " has no value tokens"
  | .keptSeparator spec group =>
      spec.destination.text ++ ": group " ++ group.text ++
        " is not at the end of the format, so its trailing separator is kept on the last particle"

structure Findings (α : Type) where
  errors : List (LintError α)
  warnings : List (LintWarning α)
  usage : List (String × Nat)
deriving Repr, DecidableEq

namespace Findings

variable {α : Type}

/-- The error of a definition, if its format string is at fault. -/
def formatError? (spec : ReportSpec α) : Option (LintError α) :=
  match Template.parse spec.format with
  | .error cause => some (.rejectedFormat spec cause)
  | .ok _ => none

/-- The template of a definition, if its format string is sound. -/
def sound? (spec : ReportSpec α) : Option (ReportSpec α × Template) :=
  (Template.parse spec.format).toOption.map (spec, ·)

def filePath? (spec : ReportSpec α) : Option String :=
  match spec.destination with
  | .console => none
  | .file path => some path

def sharedFiles (specs : List (ReportSpec α)) : List (LintError α) :=
  ((tally Path.components (specs.filterMap filePath?)).filter (·.2 > 1)).map
    fun (path, count) => .sharedFile path count

variable [Scalar α]

def warningsOf (spec : ReportSpec α) (template : Template) : List (LintWarning α) :=
  (if Scalar.same spec.interval 0.0 then [.zeroInterval spec] else []) ++
    (if template.isConstant then [.noValues spec] else []) ++
    template.keptSeparators.map (.keptSeparator spec)

def ofSpecs (specs : List (ReportSpec α)) : Findings α :=
  let sound := specs.filterMap sound?
  { errors := specs.filterMap formatError? ++ sharedFiles specs
    warnings := sound.flatMap fun (spec, template) => warningsOf spec template
    usage := tally id (sound.flatMap fun (_, template) => template.valueTokens) }

end Findings

end Telemetry
