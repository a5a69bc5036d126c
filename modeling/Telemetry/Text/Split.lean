/-!
# Splitting texts

A text is cut at every occurrence of a character.
-/

namespace Telemetry

namespace Text

/-- The pieces of a text between the occurrences of a character, empty ones
included. -/
def splitAt (separator : Char) : List Char → List (List Char)
  | [] => [[]]
  | first :: rest =>
      if first = separator then [] :: splitAt separator rest
      else
        match splitAt separator rest with
        | [] => [[first]]
        | piece :: others => (first :: piece) :: others

/-- The lines of a text.  The last one needs no line end. -/
def splitLines (text : List Char) : List (List Char) :=
  let pieces := splitAt '\n' text
  if pieces.getLast? = some [] then pieces.dropLast else pieces

end Text

end Telemetry
