import Telemetry.Decimal.Basic

/-!
# Dialects of documents

A document describes data as a tree.  Each dialect has a tree type of its own;
what the readers of this library ask of a tree is collected in a record, so that
a structure is read by the same function from every dialect.

A record is read by its fields: their order is free, fields that are not asked
for are passed over, and a field that occurs twice is not read at all.
-/

namespace Telemetry

/-- The values of a record by the names of its fields, in the order written. -/
abbrev Fields (ν : Type) := List (String × ν)

namespace Fields

variable {ν β : Type}

def required? (fields : Fields ν) (name : String) (read? : ν → Option β) : Option β :=
  match fields.filter (·.1 = name) with
  | [(_, value)] => read? value
  | _ => none

/-- Read a field that stands for a default when it is missing. -/
def optional? (fields : Fields ν) (name : String) (default : β) (read? : ν → Option β) :
    Option β :=
  match fields.filter (·.1 = name) with
  | [] => some default
  | [(_, value)] => read? value
  | _ => none

end Fields

/-- How the values of a dialect are read. -/
structure Dialect (ν : Type) where
  numeral? : ν → Option Numeral
  /-- A number that counts things, written without a sign or a point. -/
  natural? : ν → Option Nat
  text? : ν → Option String
  list? : ν → Option (List ν)
  /-- A record with a given name and the given fields. -/
  record? : (name : String) → (fields : List String) → ν → Option (Fields ν)
  /-- The single value behind a given name. -/
  wrapped? : (name : String) → ν → Option ν
  optional? : ν → Option (Option ν)

end Telemetry
