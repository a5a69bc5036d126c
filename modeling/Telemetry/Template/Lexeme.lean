import Telemetry.Template.Error

/-!
# Lexemes of a format string

A format string is cut from left to right into runs of separators, value tokens
and list blocks, each starting where the one before it ends.  Cutting stops at
the end of the string or at the first text that starts no lexeme.

Positions are counted in bytes of the UTF-8 form of the format string.
-/

namespace Telemetry

def byteLength : List Char → Nat
  | [] => 0
  | character :: rest => character.utf8Size + byteLength rest

/-- The characters that stand for themselves in a report line. -/
def isSeparator (character : Char) : Bool :=
  [',', ';', ':', '/', '\\', ' ', '\t'].contains character

/-- The characters of selectors and tag codes: ASCII letters, digits and the
underscore. -/
def isWord (character : Char) : Bool :=
  character.isAlphanum || character == '_'

/-- The characters that a list block may hold.  A line break ends the search
for the closing brace. -/
def isInterior (character : Char) : Bool :=
  character != '\x7d' && character != '\n' && character != '\r'

namespace Lexeme

inductive Kind where
  | separators
  /-- `#`, a selector character and a code of one or two characters. -/
  | value (selector : Char) (code : List Char)
  | list (interior : List Char)
deriving Repr, DecidableEq

/-- A lexeme at the start of `input`, and what follows it. -/
structure Cut (input : List Char) where
  kind : Kind
  text : List Char
  rest : List Char
  text_append_rest : text ++ rest = input
  text_ne_nil : text ≠ []

namespace Cut

theorem rest_length_lt {input : List Char} (cut : Cut input) :
    cut.rest.length < input.length := by
  have lengthEq := congrArg List.length cut.text_append_rest
  have positive := List.length_pos_iff.mpr cut.text_ne_nil
  rw [List.length_append] at lengthEq
  omega

end Cut

/-- The longest run of separators at the start, unless it is empty. -/
def cutSeparators? (input : List Char) : Option (Cut input) :=
  if nonempty : input.takeWhile isSeparator = [] then none
  else some
    { kind := .separators
      text := input.takeWhile isSeparator
      rest := input.dropWhile isSeparator
      text_append_rest := List.takeWhile_append_dropWhile
      text_ne_nil := nonempty }

/-- A value token whose `#` precedes `input`: up to three word characters, the
first of which selects.  The code must not be empty. -/
def cutValue? (input : List Char) : Option (Cut ('#' :: input)) :=
  let word := (input.take 3).takeWhile isWord
  match wordEq : word with
  | selector :: first :: more => some
      { kind := .value selector (first :: more)
        text := '#' :: word
        rest := input.drop word.length
        text_append_rest := by
          have ofTaken : word <+: input.take 3 :=
            List.takeWhile_prefix isWord
          have takenOfInput : input.take 3 <+: input :=
            List.take_prefix 3 input
          exact congrArg ('#' :: ·)
            (List.prefix_iff_eq_append.mp (ofTaken.trans takenOfInput))
        text_ne_nil := List.cons_ne_nil _ _ }
  | _ => none

/-- A list block whose opening brace precedes `input`: everything up to the
first closing brace, on one line. -/
def cutList? (input : List Char) : Option (Cut ('\x7b' :: input)) :=
  match restEq : input.dropWhile isInterior with
  | '\x7d' :: rest => some
      { kind := .list (input.takeWhile isInterior)
        text := '\x7b' :: (input.takeWhile isInterior ++ ['\x7d'])
        rest := rest
        text_append_rest := by
          simp only [List.cons_append, List.append_assoc, List.nil_append, ← restEq]
          rw [List.takeWhile_append_dropWhile]
        text_ne_nil := List.cons_ne_nil _ _ }
  | _ => none

/-- The lexeme at the start of a text, if one starts there.  Its first
character decides which kind it is. -/
def cut? : (input : List Char) → Option (Cut input)
  | '\x7b' :: input => cutList? input
  | '#' :: input => cutValue? input
  | input => cutSeparators? input

end Lexeme

structure Lexeme where
  kind : Lexeme.Kind
  text : List Char
  /-- Offset of its first byte. -/
  start : Nat
  /-- Offset of the byte behind it. -/
  stop : Nat
deriving Repr, DecidableEq

/-- Where a text stands: list blocks may not be opened inside a list block. -/
inductive Region where
  | template
  | interior
deriving Repr, DecidableEq

structure Scan where
  lexemes : List Lexeme
  error? : Option TemplateError
  /-- Offset of the first byte that belongs to no lexeme. -/
  stop : Nat
deriving Repr, DecidableEq

namespace Scan

/-- The fault of a text that starts no lexeme.  Inside a list block any opening
brace further on counts as the fault, so that nesting is always reported as
such. -/
def fault (region : Region) (offset : Nat) (input : List Char) : TemplateError :=
  let nested := input.dropWhile (· != '\x7b')
  if region = .interior ∧ nested ≠ [] then
    .nestedGroup (String.ofList nested)
      (offset + byteLength (input.takeWhile (· != '\x7b')))
  else
    .unscannable (String.ofList input) offset

/-- The lexeme at the start of a text that may stand in a region. -/
def cut? (region : Region) (input : List Char) : Option (Lexeme.Cut input) :=
  if region = .interior ∧ input.head? = some '\x7b' then none else Lexeme.cut? input

def ofChars (region : Region) (offset : Nat) (input : List Char) : Scan :=
  if input = [] then
    { lexemes := [], error? := none, stop := offset }
  else
    match cut? region input with
    | none =>
        { lexemes := [], error? := some (fault region offset input), stop := offset }
    | some cut =>
        let stop := offset + byteLength cut.text
        let remainder := Scan.ofChars region stop cut.rest
        { remainder with
          lexemes := { kind := cut.kind, text := cut.text, start := offset, stop := stop } ::
            remainder.lexemes }
termination_by input.length
decreasing_by exact cut.rest_length_lt

/-- The lexemes of a text that was cut to its end, or the fault. -/
def toExcept (scan : Scan) : Except TemplateError (List Lexeme) :=
  match scan.error? with
  | none => .ok scan.lexemes
  | some error => .error error

end Scan

end Telemetry
