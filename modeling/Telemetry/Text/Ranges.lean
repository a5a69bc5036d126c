/-!
# Ranges of characters

Properties of characters that follow no rule are given by ranges of code points.
-/

namespace Telemetry

namespace Text

/-- A character lies in one of several ranges, ends included. -/
def inRanges (ranges : List (Nat × Nat)) (character : Char) : Bool :=
  ranges.any fun (first, last) => first ≤ character.toNat && character.toNat ≤ last

end Text

end Telemetry
