/-!
# Format errors

What can be wrong with a format string.  Every error carries the offending text
and the offset of its first byte in the format string.
-/

namespace Telemetry

/-- The table in which the code of a value token was not found. -/
inductive Vocabulary where
  | selector
  | simulation
  | particle
deriving Repr, DecidableEq

def Vocabulary.entry : Vocabulary → String
  | .selector => "group identifier"
  | .simulation => "simulation value"
  | .particle => "particle value"

/-- Why a value token may not stand where it does. -/
inductive Misplacement where
  | particleOutsideGroup
  | reducedName
  | reducedIdentifier
deriving Repr, DecidableEq

def Misplacement.reason : Misplacement → String
  | .particleOutsideGroup => "particle values can only be used inside of list specifiers"
  | .reducedName => "cannot request global particle names"
  | .reducedIdentifier => "cannot request global particle hashes"

inductive TemplateError where
  /-- No lexeme starts here; the text is all that is left. -/
  | unscannable (text : String) (offset : Nat)
  | unknownTag (token : String) (offset : Nat) (vocabulary : Vocabulary)
  | misplacedTag (token : String) (offset : Nat) (misplacement : Misplacement)
  /-- A group inside a group; the text starts at the inner brace. -/
  | nestedGroup (text : String) (offset : Nat)
deriving Repr, DecidableEq

namespace TemplateError

def offset : TemplateError → Nat
  | .unscannable _ offset | .unknownTag _ offset _ | .misplacedTag _ offset _
  | .nestedGroup _ offset => offset

def text : TemplateError → String
  | .unscannable text _ | .unknownTag text _ _ | .misplacedTag text _ _
  | .nestedGroup text _ => text

def message : TemplateError → String
  | .unscannable text offset =>
      s!"could not completely parse format string, failed on \"{text}\" at offset {offset}"
  | .unknownTag token offset vocabulary =>
      let entry := vocabulary.entry
      s!"the value token {token} at offset {offset} does not specify a valid {entry}"
  | .misplacedTag token offset misplacement =>
      let reason := misplacement.reason
      s!"the value token {token} at offset {offset} is not allowed here: {reason}"
  | .nestedGroup text offset =>
      "cannot embed a list specifier inside another list specifier, " ++
        s!"failed on \"{text}\" at offset {offset}"

end TemplateError

end Telemetry
