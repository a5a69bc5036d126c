import Telemetry.Document.Dialect
import Telemetry.Ron.Token

/-!
# Values of RON documents

A RON document is one value, which attributes may precede that relax how it is
written.  Values nest to a limited depth: every bracket and every member inside
it count one level.  A pair of parentheses with nothing in between counts none.

Numbers keep the characters they were written with, because whether digits stand
for a decimal or for a count is decided by the place where they are read.
-/

namespace Telemetry

namespace Ron

/-- What the attributes of a document allow. -/
structure Extensions where
  /-- An optional value that is present may be written without `Some`. -/
  implicitSome : Bool
  /-- A single value behind a name may be written without the name and the
  parentheses. -/
  unwrapsNewtypes : Bool
deriving Repr, DecidableEq

inductive Value where
  | numeral (text : List Char)
  | text (content : String)
  | character (content : Char)
  | name (name : Name)
  | present (value : Value)
  | list (members : List Value)
  | map (entries : List (Value × Value))
  | tuple (name? : Option Name) (members : List Value)
  | record (name? : Option Name) (fields : List (String × Value))

def depthLimit : Nat := 128

/-- The count that digits denote.  A base may be given by `0x`, `0b` or `0o`, and
underscores may stand between the digits. -/
def natural? (text : List Char) : Option Nat :=
  let (base, digits) :=
    match text with
    | '0' :: 'x' :: digits => (16, digits)
    | '0' :: 'b' :: digits => (2, digits)
    | '0' :: 'o' :: digits => (8, digits)
    | digits => (10, digits)
  if digits = [] ∨ digits.head? = some '_' then none
  else Document.naturalInBase? base (digits.filter (· != '_'))

def decimal? (text : List Char) : Option Numeral :=
  let (isNegative, magnitude) := splitSign text
  if magnitude = ['i', 'n', 'f'] then some (.infinite isNegative)
  else if magnitude = ['N', 'a', 'N'] then some .notANumber
  else (Decimal.ofChars? magnitude).map (.finite isNegative)

/-- Some characters are a number: a decimal, or a whole number of up to
sixty-four bits. -/
def isNumber (text : List Char) : Bool :=
  let isWhole :=
    match text with
    | '-' :: digits => (natural? digits).any (· ≤ 0x8000000000000000)
    | '+' :: digits => (natural? digits).any (· < 0x8000000000000000)
    | digits => (natural? digits).any (· < UInt64.size)
  isWhole || (decimal? text).isSome

/-- The words that are values by themselves and name nothing. -/
def isWord (name : Name) : Bool :=
  !name.isRaw && ["true", "false", "None", "inf", "NaN"].contains name.text

/-- Values between a pair of marks, with a comma behind the last one or not. -/
def enclosed (closing : Char) : SequenceMarks Token where
  separator := .mark ','
  closing := .mark closing
  allowsTrailing := true

/-- The names in an attribute, and what they allow. -/
def extensionNames : List (String × Extensions) :=
  [("implicit_some", ⟨true, false⟩), ("unwrap_newtypes", ⟨false, true⟩),
    ("unwrap_variant_newtypes", ⟨false, false⟩)]

def extension? : (input : List Token) → Option (Parsed input Extensions)
  | .name name :: _ =>
      (extensionNames.lookup name.text).map fun extensions => .ofFirst extensions
  | _ => none

def Extensions.union (first second : Extensions) : Extensions where
  implicitSome := first.implicitSome || second.implicitSome
  unwrapsNewtypes := first.unwrapsNewtypes || second.unwrapsNewtypes

/-- An attribute, and everything it allows. -/
def attribute? : (input : List Token) → Option (Parsed input Extensions)
  | .mark '#' :: .mark '!' :: .mark '[' :: .name ⟨false, "enable"⟩ :: .mark '(' :: rest =>
      match members? (enclosed ')') rest.length (fun inner _ => extension? inner) rest
        (Nat.le_refl rest.length) with
      | none => none
      | some names =>
          (symbol? (.mark ']') names.rest).map fun closing =>
            ((names.followedBy closing).map fun _ =>
              names.value.foldr Extensions.union ⟨false, false⟩).behind.behind.behind.behind.behind
  | _ => none

/-- The attributes at the start of a document, and the tokens behind them. -/
def attributes? (input : List Token) : Option (Extensions × List Token) :=
  if input.head? = some (.mark '#') then
    match attribute? input with
    | none => none
    | some first =>
        (attributes? first.rest).map fun (extensions, rest) =>
          (first.value.union extensions, rest)
  else some (⟨false, false⟩, input)
termination_by input.length
decreasing_by exact first.rest_length_lt

/-- What reads a value from the front of a list of tokens. -/
abbrev Reader := (input : List Token) → Option (Parsed input Value)

def pair? (member? : Reader) (input : List Token) : Option (Parsed input (Value × Value)) := do
  let key ← member? input
  let colon ← symbol? (.mark ':') key.rest
  let value ← member? (key.followedBy colon).rest
  return ((key.followedBy colon).followedBy value).map fun value => (key.value, value)

def field? (member? : Reader) : (input : List Token) → Option (Parsed input (String × Value))
  | .name name :: .mark ':' :: rest =>
      (member? rest).map fun value => (value.map fun value => (name.text, value)).behind.behind
  | _ => none

def beginsRecord : List Token → Bool
  | .name _ :: .mark ':' :: _ => true
  | _ => false

/-- The members of a tuple or the fields of a record, whose opening parenthesis
precedes `input`. -/
def parenthesised? (member? : Reader) (name? : Option Name) (input : List Token) :
    Option (Parsed input Value) :=
  if beginsRecord input then
    (sequence? (enclosed ')') input fun inner _ => field? member? inner).map
      (·.map (.record name?))
  else
    (sequence? (enclosed ')') input fun inner _ => member? inner).map (·.map (.tuple name?))

/-- The closing parenthesis of an optional value, with a comma before it or
not. -/
def behindContent? : (input : List Token) → Option (Parsed input Unit)
  | .mark ')' :: _ => some (.ofFirst ())
  | .mark ',' :: .mark ')' :: _ => some (Parsed.ofFirst ()).behind
  | _ => none

/-- The value of an optional value behind the word `Some`. -/
def present? (extensions : Extensions) (content? : Reader) (input : List Token) :
    Option (Parsed input Value) :=
  match input with
  | .unit :: _ => none
  | .mark '(' :: inner => do
      let content ← content? inner
      let closing ← behindContent? content.rest
      return ((content.followedBy closing).map fun _ => .present content.value).behind
  | input =>
      if extensions.implicitSome then (content? input).map (·.map .present) else none

/-- A value, given what reads the members of brackets and the content of optional
values inside it.  Brackets are refused unless `isOpen`. -/
def layer? (extensions : Extensions) (isOpen : Bool) (content? member? : Reader) : Reader
  | .numeral text :: _ => if isNumber text then some (.ofFirst (.numeral text)) else none
  | .text content :: _ => some (.ofFirst (.text content))
  | .character content :: _ => some (.ofFirst (.character content))
  | .unit :: _ => some (.ofFirst (.tuple none []))
  | .name name :: rest =>
      if isWord name then some (.ofFirst (.name name))
      else if name = ⟨false, "Some"⟩ then
        (present? extensions content? rest).map (·.behind)
      else
        match rest with
        | .unit :: _ =>
            if isOpen then some (Parsed.ofFirst (.tuple (some name) [])).behind else none
        | .mark '(' :: inner =>
            if isOpen then (parenthesised? member? (some name) inner).map (·.behind.behind)
            else none
        | _ => some (.ofFirst (.name name))
  | .mark opening :: rest =>
      if !isOpen then none
      else if opening = '(' then (parenthesised? member? none rest).map (·.behind)
      else if opening = '[' then
        (sequence? (enclosed ']') rest fun inner _ => member? inner).map fun members =>
          (members.map .list).behind
      else if opening = '\x7b' then
        (sequence? (enclosed '\x7d') rest fun inner _ => pair? member? inner).map fun entries =>
          (entries.map .map).behind
      else none
  | [] => none

/-- A value that nests into a number of levels at most.  The content of an
optional value is one level deeper, a member of brackets two. -/
def value? (extensions : Extensions) : (levels : Nat) → Reader
  | 0 => layer? extensions false (fun _ => none) (fun _ => none)
  | 1 => layer? extensions true (value? extensions 0) (fun _ => none)
  | levels + 2 => layer? extensions true (value? extensions (levels + 1)) (value? extensions levels)

/-- The value of a document, and what its attributes allow. -/
def document? (text : List Char) : Option (Extensions × Value) := do
  let (extensions, tokens) ← attributes? (← tokens? text)
  match value? extensions depthLimit tokens with
  | some ⟨value, [], _⟩ => some (extensions, value)
  | _ => none

def isNamed (name : String) (name? : Option Name) : Bool :=
  name?.all (·.text == name)

/-- What is left of a name that begins with the word `Some`. -/
def Name.behindSome? (name : Name) : Option (List Char) :=
  if !name.isRaw && "Some".toList.isPrefixOf name.text.toList then some (name.text.toList.drop 4)
  else none

/-- An optional value that is present without parentheses, where the word `Some`
may be left out, and may run into the value. -/
def Value.unmarked : Value → Value
  | .name word =>
      match word.behindSome? with
      | some rest =>
          if isNumber rest then .numeral rest else .name ⟨false, String.ofList rest⟩
      | none => .name word
  | .tuple (some word) members =>
      match word.behindSome? with
      | some rest => .tuple (some ⟨false, String.ofList rest⟩) members
      | none => .tuple (some word) members
  | value => value

/-- How values are read under the attributes of their document. -/
def dialect (extensions : Extensions) : Dialect Value where
  numeral?
    | .numeral text => decimal? text
    | .name ⟨false, "inf"⟩ => some (.infinite false)
    | .name ⟨false, "NaN"⟩ => some .notANumber
    | _ => none
  natural?
    | .numeral text => natural? text
    | _ => none
  text?
    | .text content => some content
    | _ => none
  list?
    | .list members => some members
    | _ => none
  record? name _
    | .record name? fields => if isNamed name name? then some fields else none
    | .tuple name? [] => if isNamed name name? then some [] else none
    | _ => none
  wrapped? name value :=
    if extensions.unwrapsNewtypes then some value
    else
      match value with
      | .tuple name? [value] => if isNamed name name? then some value else none
      | _ => none
  optional?
    | .name ⟨false, "None"⟩ => some none
    | .present value => some (some value)
    | value => if extensions.implicitSome then some (some value.unmarked) else none

end Ron

end Telemetry
