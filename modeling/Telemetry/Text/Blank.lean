import Telemetry.Text.Ranges

/-!
# Blanks

The characters that separate words, after the property `White_Space` of the
Unicode standard, and how texts are freed of them and split at them.
-/

namespace Telemetry

namespace Text

/-- The characters that separate words. -/
def blankRanges : List (Nat × Nat) :=
  [(0x9, 0xd), (0x20, 0x20), (0x85, 0x85), (0xa0, 0xa0), (0x1680, 0x1680), (0x2000, 0x200a),
   (0x2028, 0x2029), (0x202f, 0x202f), (0x205f, 0x205f), (0x3000, 0x3000)]

def isBlank (character : Char) : Bool :=
  inRanges blankRanges character

def trimEnd (isTrimmed : Char → Bool) (text : List Char) : List Char :=
  (text.reverse.dropWhile isTrimmed).reverse

def trim (text : List Char) : List Char :=
  trimEnd isBlank (text.dropWhile isBlank)

/-- The first word of a text, and what follows the blank behind it. -/
def splitWord (text : List Char) : List Char × List Char :=
  (text.takeWhile (!isBlank ·), (text.dropWhile (!isBlank ·)).tail)

end Text

end Telemetry
