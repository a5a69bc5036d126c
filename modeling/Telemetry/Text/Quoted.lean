import Telemetry.Text.Unseen

/-!
# Quoted texts

A text in double quotes, in which every character can be told apart: quotes,
backslashes and line breaks stand behind a backslash, and characters without a
shape of their own are shown by their code.
-/

namespace Telemetry

namespace Text

/-- The code of a character, in hexadecimal digits. -/
def hexCode (character : Char) : List Char :=
  ['\\', 'u', '\x7b'] ++ Nat.toDigits 16 character.toNat ++ ['\x7d']

def escape (character : Char) : List Char :=
  if character = '\x00' then ['\\', '0']
  else if character = '\t' then ['\\', 't']
  else if character = '\r' then ['\\', 'r']
  else if character = '\n' then ['\\', 'n']
  else if character = '\\' ∨ character = '"' then ['\\', character]
  else if isUnseen character then hexCode character
  else [character]

def quoted (text : String) : String :=
  String.ofList ('"' :: text.toList.flatMap escape ++ ['"'])

end Text

end Telemetry
