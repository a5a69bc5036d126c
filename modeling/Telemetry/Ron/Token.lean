import Telemetry.Decimal.Numeral
import Telemetry.Document.Text

/-!
# Tokens of RON documents

A RON document is cut into marks, names, numbers, strings and characters.
Blanks, line comments and nested block comments may stand between them.
-/

namespace Telemetry

open Document (isBlank hexDigit? naturalInBase? run)

namespace Ron

def isMark (character : Char) : Bool :=
  ['(', ')', '[', ']', '\x7b', '\x7d', ':', ',', '#', '!'].contains character

def startsName (character : Char) : Bool :=
  character.isAlpha || character == '_'

def isNamePart (character : Char) : Bool :=
  character.isAlphanum || character == '_'

/-- The characters of numbers, and of names that are marked as raw. -/
def isRawPart (character : Char) : Bool :=
  isNamePart character || ['.', '+', '-'].contains character

/-- A name.  A raw name is not taken for a word of the language. -/
structure Name where
  isRaw : Bool
  text : String
deriving Repr, DecidableEq

inductive Token where
  | mark (character : Char)
  /-- A pair of parentheses with nothing in between, not even a blank. -/
  | unit
  | name (name : Name)
  | numeral (text : List Char)
  | text (content : String)
  | character (content : Char)
deriving Repr, DecidableEq

/-- The character whose code stands between braces, from the first digit on. -/
def characterInBraces? (first : Char) (rest : List Char) : Option (Parsed (first :: rest) Char) :=
  let digits := run (fun character => (hexDigit? character).isSome) id first rest
  match naturalInBase? 16 digits.value, symbol? '\x7d' digits.rest with
  | some code, some closing =>
      if digits.value.length ≤ 6 ∧ code.isValidChar then
        some ((digits.followedBy closing).map fun _ => Char.ofNat code)
      else none
  | _, _ => none

def escape? : (input : List Char) → Option (Parsed input Char)
  | 'n' :: _ => some (.ofFirst '\n')
  | 't' :: _ => some (.ofFirst '\t')
  | 'r' :: _ => some (.ofFirst '\r')
  | '0' :: _ => some (.ofFirst '\x00')
  | 'x' :: first :: second :: _ =>
      (naturalInBase? 16 [first, second]).map fun code =>
        (Parsed.ofFirst (Char.ofNat code)).behind.behind
  | 'u' :: '\x7b' :: first :: rest =>
      (characterInBraces? first rest).map fun character => character.behind.behind
  | first :: _ => if ['"', '\\', '\''].contains first then some (.ofFirst first) else none
  | [] => none

/-- The content of a string whose opening quote precedes `input`. -/
def quoted? (input : List Char) : Option (Parsed input (List Char)) :=
  match input with
  | [] => none
  | first :: rest =>
      if first = '"' then some (.ofFirst [])
      else if first = '\\' then
        match escape? rest with
        | none => none
        | some escaped =>
            (quoted? escaped.rest).map fun more =>
              ((escaped.followedBy more).map (escaped.value :: ·)).behind
      else (quoted? rest).map fun more => (more.map (first :: ·)).behind
termination_by input.length
decreasing_by
  · exact escaped.behind.rest_length_lt
  · exact Nat.lt_succ_self rest.length

/-- The content of a raw string, which ends at a quote that is followed by a
number of hashes. -/
def rawQuoted? (hashes : Nat) : (input : List Char) → Option (Parsed input (List Char))
  | [] => none
  | first :: rest =>
      if first = '"' ∧ rest.take hashes = List.replicate hashes '#' then
        some ((Parsed.ofFirst []).skip hashes)
      else (rawQuoted? hashes rest).map fun more => (more.map (first :: ·)).behind

/-- A raw string whose `r` and a number of hashes precede `input`. -/
def rawText? (hashes : Nat) : (input : List Char) → Option (Parsed input Token)
  | '#' :: rest => (rawText? (hashes + 1) rest).map (·.behind)
  | '"' :: rest =>
      (rawQuoted? hashes rest).map fun content =>
        (content.map fun content => .text (String.ofList content)).behind
  | _ => none

/-- A character whose opening quote precedes `input`. -/
def character? : (input : List Char) → Option (Parsed input Token)
  | '\\' :: rest =>
      match escape? rest with
      | none => none
      | some escaped =>
          (symbol? '\'' escaped.rest).map fun closing =>
            ((escaped.followedBy closing).map fun _ => .character escaped.value).behind
  | first :: '\'' :: _ =>
      if first = '\'' then none else some (Parsed.ofFirst (.character first)).behind
  | _ => none

/-- The word `Some`, if it runs into a number or into a raw name. -/
def attachedWord? : (input : List Char) → Option (Parsed input Token)
  | 'S' :: 'o' :: 'm' :: 'e' :: rest =>
      let isAttached :=
        match rest with
        | 'r' :: '#' :: first :: _ => isRawPart first
        | first :: _ => isRawPart first && !isNamePart first
        | [] => false
      if isAttached then
        some (Parsed.ofFirst (.name ⟨false, "Some"⟩)).behind.behind.behind
      else none
  | _ => none

/-- A name.  It must not run into a point or a sign, unless it is marked as raw
by `r#`. -/
def name? : (input : List Char) → Option (Parsed input Token)
  | 'r' :: '#' :: first :: rest =>
      if isRawPart first then
        some (run isRawPart (fun text => .name ⟨true, String.ofList text⟩)
          first rest).behind.behind
      else none
  | first :: rest =>
      let name := run isNamePart (fun text => .name ⟨false, String.ofList text⟩) first rest
      if name.rest.head?.any isRawPart then none else some name
  | [] => none

/-- What follows a block comment that is open a number of times. -/
def behindComment? (depth : Nat) : (input : List Char) → Option (Parsed input Unit)
  | '*' :: '/' :: rest =>
      match depth with
      | 0 => some (Parsed.ofFirst ()).behind
      | depth + 1 => (behindComment? depth rest).map (·.behind.behind)
  | '/' :: '*' :: rest => (behindComment? (depth + 1) rest).map (·.behind.behind)
  | _ :: rest => (behindComment? depth rest).map (·.behind)
  | [] => none

/-- A comment whose first slash precedes `input`. -/
def comment? : (input : List Char) → Option (Parsed input Unit)
  | '/' :: rest => some (run (· != '\n') (fun _ => ()) '/' rest)
  | '*' :: rest => (behindComment? 0 rest).map (·.behind)
  | _ => none

def opening : (rest : List Char) → Parsed ('(' :: rest) (Option Token)
  | ')' :: _ => (Parsed.ofFirst (some .unit)).behind
  | _ => .ofFirst (some (.mark '('))

/-- The token at the start of a text, or nothing for a blank or a comment. -/
def token? (first : Char) (rest : List Char) : Option (Parsed (first :: rest) (Option Token)) :=
  let isRawText := first == 'r' &&
    match rest with
    | '"' :: _ => true
    | '#' :: start :: _ => !isRawPart start
    | _ => false
  if isBlank first then some (.ofFirst none)
  else if parenthesis : first = '(' then some (parenthesis ▸ opening rest)
  else if isMark first then some (.ofFirst (some (.mark first)))
  else if first = '/' then (comment? rest).map fun comment => (comment.map fun _ => none).behind
  else if first = '"' then
    (quoted? rest).map fun content =>
      (content.map fun content => some (.text (String.ofList content))).behind
  else if first = '\'' then (character? rest).map fun token => (token.map some).behind
  else if isRawText then (rawText? 0 rest).map fun token => (token.map some).behind
  else if startsName first then
    (attachedWord? (first :: rest) <|> name? (first :: rest)).map (·.map some)
  else if isRawPart first then some ((run isRawPart .numeral first rest).map some)
  else none

def tokens? (input : List Char) : Option (List Token) :=
  Document.tokens? token? input

end Ron

end Telemetry
