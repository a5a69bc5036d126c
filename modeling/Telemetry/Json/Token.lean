import Telemetry.Decimal.Numeral
import Telemetry.Document.Text

/-!
# Tokens of JSON documents

A JSON document is cut into marks, words, numbers and strings.  A string may
name half of a surrogate pair alone; such a string has no content, which matters
only where the string is read.
-/

namespace Telemetry

open Document (isBlank naturalInBase? run)

namespace Json

def isMark (character : Char) : Bool :=
  ['\x7b', '\x7d', '[', ']', ':', ','].contains character

def isNumberPart (character : Char) : Bool :=
  character.isDigit || ['-', '+', '.', 'e', 'E'].contains character

inductive Token where
  | mark (character : Char)
  | word (text : List Char)
  | numeral (text : List Char)
  /-- A string, and its content if it has one. -/
  | text (content? : Option String)
deriving Repr, DecidableEq

/-- The code point behind a backslash.  Halves of surrogate pairs are returned
one by one. -/
def escape? : (input : List Char) → Option (Parsed input Nat)
  | 'b' :: _ => some (.ofFirst 0x08)
  | 'f' :: _ => some (.ofFirst 0x0c)
  | 'n' :: _ => some (.ofFirst 0x0a)
  | 'r' :: _ => some (.ofFirst 0x0d)
  | 't' :: _ => some (.ofFirst 0x09)
  | 'u' :: first :: second :: third :: fourth :: _ =>
      (naturalInBase? 16 [first, second, third, fourth]).map fun code =>
        (Parsed.ofFirst code).behind.behind.behind.behind
  | first :: _ => if ['"', '\\', '/'].contains first then some (.ofFirst first.toNat) else none
  | [] => none

/-- The code points of a string whose opening quote precedes `input`.  Control
characters must be escaped. -/
def quoted? (input : List Char) : Option (Parsed input (List Nat)) :=
  match input with
  | [] => none
  | first :: rest =>
      if first = '"' then some (.ofFirst [])
      else if first = '\\' then
        match escape? rest with
        | none => none
        | some escaped =>
            (quoted? escaped.rest).map fun more =>
              ((escaped.followedBy more).map (escaped.value :: ·)).behind
      else if first < ' ' then none
      else (quoted? rest).map fun more => (more.map (first.toNat :: ·)).behind
termination_by input.length
decreasing_by
  · exact escaped.behind.rest_length_lt
  · exact Nat.lt_succ_self rest.length

/-- The characters that code points stand for.  A high surrogate must be followed
by a low one, and the two stand for one character. -/
def characters? : List Nat → Option (List Char)
  | [] => some []
  | code :: rest =>
      if code.isValidChar then (characters? rest).map (Char.ofNat code :: ·)
      else
        match rest with
        | low :: rest =>
            if code < 0xdc00 ∧ 0xdc00 ≤ low ∧ low < 0xe000 then
              (characters? rest).map
                (Char.ofNat (0x10000 + (code - 0xd800) * 0x400 + (low - 0xdc00)) :: ·)
            else none
        | [] => none

/-- The token at the start of a text, or nothing for a blank. -/
def token? (first : Char) (rest : List Char) : Option (Parsed (first :: rest) (Option Token)) :=
  if isBlank first then some (.ofFirst none)
  else if isMark first then some (.ofFirst (some (.mark first)))
  else if first = '"' then
    (quoted? rest).map fun codes =>
      (codes.map fun codes => some (.text ((characters? codes).map String.ofList))).behind
  else if first = '-' ∨ first.isDigit then
    some ((run isNumberPart .numeral first rest).map some)
  else if first.isAlpha then some ((run Char.isAlpha .word first rest).map some)
  else none

def tokens? (input : List Char) : Option (List Token) :=
  Document.tokens? token? input

end Json

end Telemetry
