import Telemetry.Document.Parsed

/-!
# The text of documents

What the dialects of documents have in common before their tokens differ: blanks,
hexadecimal digits, runs of characters, and cutting a text into tokens from left
to right.
-/

namespace Telemetry

namespace Document

def isBlank (character : Char) : Bool :=
  [' ', '\t', '\n', '\r'].contains character

def hexDigit? (character : Char) : Option Nat :=
  if character.isDigit then some (character.toNat - '0'.toNat)
  else if 'a' ≤ character ∧ character ≤ 'f' then some (character.toNat - 'a'.toNat + 10)
  else if 'A' ≤ character ∧ character ≤ 'F' then some (character.toNat - 'A'.toNat + 10)
  else none

/-- The number that digits of a base, up to sixteen, denote, if they all are
digits of it. -/
def naturalInBase? (base : Nat) (digits : List Char) : Option Nat :=
  digits.foldlM (fun value digit => do
    let digit ← hexDigit? digit
    if digit < base then some (base * value + digit) else none) 0

/-- The longest run of characters of a class behind a first character. -/
def run {τ : Type} (isPart : Char → Bool) (token : List Char → τ) (first : Char)
    (rest : List Char) : Parsed (first :: rest) τ where
  value := token (first :: rest.takeWhile isPart)
  rest := rest.dropWhile isPart
  rest_length_lt := Nat.lt_succ_of_le (List.dropWhile_suffix isPart).length_le

/-- The tokens of a text, cut by a function that returns nothing for what stands
between tokens. -/
def tokens? {τ : Type}
    (token? : (first : Char) → (rest : List Char) → Option (Parsed (first :: rest) (Option τ)))
    (input : List Char) : Option (List τ) :=
  match input with
  | [] => some []
  | first :: rest =>
      match token? first rest with
      | none => none
      | some parsed => (tokens? token? parsed.rest).map (parsed.value.toList ++ ·)
termination_by input.length
decreasing_by exact parsed.rest_length_lt

end Document

end Telemetry
