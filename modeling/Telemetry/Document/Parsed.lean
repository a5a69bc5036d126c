/-!
# Reading from the front

A reader takes a value from the front of a list of symbols, characters or tokens,
and hands on what is left.  What is left is always shorter, so readers that call
one another end.

The one grammar that documents of every dialect share is stated here: members
with a separator between them, up to a closing symbol.
-/

namespace Telemetry

/-- A value read from the front of a list, and what is left of the list. -/
structure Parsed {σ : Type} (input : List σ) (β : Type) where
  value : β
  rest : List σ
  rest_length_lt : rest.length < input.length

namespace Parsed

variable {σ β γ : Type}

/-- The value changed, the rest kept. -/
def map {input : List σ} (change : β → γ) (parsed : Parsed input β) : Parsed input γ :=
  { parsed with value := change parsed.value }

def ofFirst {first : σ} {rest : List σ} (value : β) : Parsed (first :: rest) β where
  value := value
  rest := rest
  rest_length_lt := Nat.lt_succ_self rest.length

def behind {first : σ} {rest : List σ} (parsed : Parsed rest β) : Parsed (first :: rest) β where
  value := parsed.value
  rest := parsed.rest
  rest_length_lt := Nat.lt_succ_of_lt parsed.rest_length_lt

def followedBy {input : List σ} (parsed : Parsed input β) (more : Parsed parsed.rest γ) :
    Parsed input γ where
  value := more.value
  rest := more.rest
  rest_length_lt := Nat.lt_trans more.rest_length_lt parsed.rest_length_lt

/-- The value, with a number of further symbols left out. -/
def skip {input : List σ} (count : Nat) (parsed : Parsed input β) : Parsed input β where
  value := parsed.value
  rest := parsed.rest.drop count
  rest_length_lt :=
    Nat.lt_of_le_of_lt (List.drop_sublist count parsed.rest).length_le parsed.rest_length_lt

theorem rest_length_le_of_le {input : List σ} {limit : Nat} (parsed : Parsed input β)
    (inside : input.length ≤ limit) : parsed.rest.length ≤ limit :=
  Nat.le_of_lt (Nat.lt_of_lt_of_le parsed.rest_length_lt inside)

end Parsed

def symbol? {σ : Type} [BEq σ] (symbol : σ) (input : List σ) : Option (Parsed input Unit) :=
  match input with
  | first :: _ => if first == symbol then some (.ofFirst ()) else none
  | [] => none

/-- How the members of a sequence are told apart. -/
structure SequenceMarks (σ : Type) where
  separator : σ
  closing : σ
  allowsTrailing : Bool

/-- One or more members and the closing symbol.  Members are read only from
lists that are no longer than `limit`. -/
def members? {σ β : Type} [BEq σ] (marks : SequenceMarks σ) (limit : Nat)
    (member? : (inner : List σ) → inner.length ≤ limit → Option (Parsed inner β))
    (input : List σ) (inside : input.length ≤ limit) : Option (Parsed input (List β)) :=
  match member? input inside with
  | none => none
  | some first =>
      match symbol? marks.closing first.rest with
      | some closing => some ((first.followedBy closing).map fun _ => [first.value])
      | none =>
          match symbol? marks.separator first.rest with
          | none => none
          | some separator =>
              let opening := first.followedBy separator
              match if marks.allowsTrailing then symbol? marks.closing opening.rest else none with
              | some closing => some ((opening.followedBy closing).map fun _ => [first.value])
              | none =>
                  (members? marks limit member? opening.rest
                    (opening.rest_length_le_of_le inside)).map
                      fun more => (opening.followedBy more).map (first.value :: ·)
termination_by input.length
decreasing_by exact (first.followedBy separator).rest_length_lt

def sequence? {σ β : Type} [BEq σ] (marks : SequenceMarks σ) (input : List σ)
    (member? : (inner : List σ) → inner.length ≤ input.length → Option (Parsed inner β)) :
    Option (Parsed input (List β)) :=
  match symbol? marks.closing input with
  | some closing => some (closing.map fun _ => [])
  | none => members? marks input.length member? input (Nat.le_refl input.length)

end Telemetry
