import Telemetry.Template.Basic
import Telemetry.Template.Lexeme

/-!
# Reading format strings

A format string is read lexeme by lexeme.  Value tokens are looked up in the
vocabulary and checked against the place they stand in; a list block is read by
the same rules, except that it may hold tags of single particles and no further
block.  The first fault ends the reading.
-/

namespace Telemetry

namespace Lexeme

def unknown (lexeme : Lexeme) (vocabulary : Vocabulary) : TemplateError :=
  .unknownTag (String.ofList lexeme.text) lexeme.start vocabulary

def misplaced (lexeme : Lexeme) (misplacement : Misplacement) : TemplateError :=
  .misplacedTag (String.ofList lexeme.text) lexeme.start misplacement

def particleTag (lexeme : Lexeme) (code : List Char) : Except TemplateError ParticleTag :=
  match ParticleTag.ofCode? (String.ofList code) with
  | some tag => .ok tag
  | none => .error (lexeme.unknown .particle)

def aggregate (lexeme : Lexeme) (reduction : Reduction) (code : List Char) :
    Except TemplateError Aggregate := do
  let tag ← lexeme.particleTag code
  match Aggregate.make? reduction tag with
  | some aggregate => .ok aggregate
  | none =>
      .error (lexeme.misplaced (if tag = .name then .reducedName else .reducedIdentifier))

def quantity (lexeme : Lexeme) (selector : Char) (code : List Char) :
    Except TemplateError Item :=
  match Selector.ofCode? selector with
  | none => .error (lexeme.unknown .selector)
  | some .simulation =>
      match SimulationTag.ofCode? (String.ofList code) with
      | some tag => .ok (.simulation tag)
      | none => .error (lexeme.unknown .simulation)
  | some .particle => return .particle (← lexeme.particleTag code)
  | some .average => return .aggregate (← lexeme.aggregate .average code)
  | some .deviation => return .aggregate (← lexeme.aggregate .deviation code)

def item (lexeme : Lexeme) : Except TemplateError Item :=
  match lexeme.kind with
  | .separators => .ok (.literal (String.ofList lexeme.text))
  | .value selector code => lexeme.quantity selector code
  | .list _ => .error (.nestedGroup (String.ofList lexeme.text) lexeme.start)

end Lexeme

namespace Scan

/-- Read the lexemes of a scan one after the other; its own fault comes after
those of the lexemes. -/
def read {β : Type} (meaning : Lexeme → Except TemplateError β) (scan : Scan) :
    Except TemplateError (List β) := do
  let parts ← scan.lexemes.mapM meaning
  match scan.error? with
  | none => .ok parts
  | some error => .error error

end Scan

/-- The parts of a group, from the inside of its block and the offset at which
the inside begins. -/
def Group.itemsOfInterior (offset : Nat) (interior : List Char) :
    Except TemplateError (List Item) :=
  (Scan.ofChars .interior offset interior).read Lexeme.item

namespace Lexeme

/-- A lexeme as a part of a template that ends at the offset `length`.  A list
block that ends the template elides its trailing separator. -/
def node (length : Nat) (lexeme : Lexeme) : Except TemplateError Node := do
  match lexeme.kind with
  | .list interior =>
      let items ← Group.itemsOfInterior (lexeme.start + 1) interior
      return .group { items := items, elidesTrailingSeparator := lexeme.stop == length }
  | _ =>
      match ← lexeme.item with
      | .literal text => return .literal text
      | .simulation tag => return .simulation tag
      | .aggregate reduced => return .aggregate reduced
      | .particle _ => throw (lexeme.misplaced .particleOutsideGroup)

end Lexeme

namespace Template

def ofChars (format : List Char) : Except TemplateError Template := do
  let nodes ← (Scan.ofChars .template 0 format).read (Lexeme.node (byteLength format))
  return { nodes := nodes }

def parse (format : String) : Except TemplateError Template :=
  ofChars format.toList

end Template

end Telemetry
