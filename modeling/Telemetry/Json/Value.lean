import Telemetry.Document.Dialect
import Telemetry.Json.Token

/-!
# Values of JSON documents

A JSON document is one value.  Where a record is read, an array is taken for the
values of its fields in their order; fields at the end may be left out.

Whole numbers also serve as decimals, but not the other way round.
-/

namespace Telemetry

namespace Json

inductive Value where
  | null
  | boolean (value : Bool)
  | numeral (text : List Char)
  /-- A string, and its content if it has one. -/
  | text (content? : Option String)
  | array (members : List Value)
  /-- An object: its keys, with their content if they have one, and values. -/
  | object (entries : List (Option String × Value))

/-- One or more digits at the start of a text, and what follows them. -/
def someDigits? (text : List Char) : Option (List Char) :=
  match splitDigits text with
  | ([], _) => none
  | (_, rest) => some rest

/-- What follows the whole part of a number: a sign, and a zero or digits that do
not begin with one. -/
def behindWhole? (text : List Char) : Option (List Char) :=
  let magnitude :=
    match text with
    | '-' :: magnitude => magnitude
    | magnitude => magnitude
  match splitDigits magnitude with
  | ([], _) => none
  | ('0' :: _ :: _, _) => none
  | (_, rest) => some rest

/-- What follows a point and digits, if there is a point. -/
def behindFraction? : List Char → Option (List Char)
  | '.' :: digits => someDigits? digits
  | text => some text

/-- What follows an exponent, if there is one. -/
def behindExponent? : List Char → Option (List Char)
  | [] => some []
  | mark :: exponent =>
      if mark = 'e' ∨ mark = 'E' then someDigits? (splitSign exponent).2 else some (mark :: exponent)

def isNumber (text : List Char) : Bool :=
  (behindWhole? text).bind (fun rest => (behindFraction? rest).bind behindExponent?) == some []

/-- The number that some characters denote, unless it is too large for a machine
number. -/
def decimal? (text : List Char) : Option Numeral := do
  let (isNegative, magnitude) := splitSign text
  let magnitude ← Decimal.ofChars? magnitude
  if magnitude.toFloat.isInf then none else some (.finite isNegative magnitude)

def natural? (text : List Char) : Option Nat :=
  if text.all Char.isDigit then some (naturalOfDigits text) else none

/-- Members up to a closing mark, with commas only between them. -/
def enclosed (closing : Char) : SequenceMarks Token where
  separator := .mark ','
  closing := .mark closing
  allowsTrailing := false

def word? (text : List Char) : Option Value :=
  if text = ['n', 'u', 'l', 'l'] then some .null
  else if text = ['t', 'r', 'u', 'e'] then some (.boolean true)
  else if text = ['f', 'a', 'l', 's', 'e'] then some (.boolean false)
  else none

/-- A key and the value behind its colon, the value being read by `value?`. -/
def pair? (limit : Nat)
    (value? : (input : List Token) → input.length ≤ limit → Option (Parsed input Value))
    (input : List Token) (inside : input.length ≤ limit) :
    Option (Parsed input (Option String × Value)) :=
  match input with
  | .text key? :: .mark ':' :: rest =>
      (value? rest (Nat.le_of_succ_le (Nat.le_of_succ_le inside))).map fun value =>
        (value.map fun value => (key?, value)).behind.behind
  | _ => none

def value? (input : List Token) : Option (Parsed input Value) :=
  match input with
  | .word text :: _ => (word? text).map fun value => .ofFirst value
  | .numeral text :: _ => if isNumber text then some (.ofFirst (.numeral text)) else none
  | .text content? :: _ => some (.ofFirst (.text content?))
  | .mark '[' :: rest =>
      (sequence? (enclosed ']') rest fun inner _ => value? inner).map fun members =>
        (members.map .array).behind
  | .mark '\x7b' :: rest =>
      (sequence? (enclosed '\x7d') rest (pair? rest.length fun inner _ => value? inner)).map
        fun entries => (entries.map .object).behind
  | _ => none
termination_by input.length
decreasing_by all_goals exact Nat.lt_succ_of_le (by assumption)

def document? (text : List Char) : Option Value := do
  match value? (← tokens? text) with
  | some ⟨value, [], _⟩ => some value
  | _ => none

def dialect : Dialect Value where
  numeral?
    | .numeral text => decimal? text
    | _ => none
  natural?
    | .numeral text => natural? text
    | _ => none
  text?
    | .text content? => content?
    | _ => none
  list?
    | .array members => some members
    | _ => none
  record? _ names
    | .object entries => entries.mapM fun (key?, value) => key?.map (·, value)
    | .array members => if members.length ≤ names.length then some (names.zip members) else none
    | _ => none
  wrapped? _ value := some value
  optional?
    | .null => some none
    | value => some (some value)

end Json

end Telemetry
