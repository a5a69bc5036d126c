import Mathlib.Logic.Basic
import Telemetry.Scalar.Binary64

/-!
# The characters of numbers

A number is written with digits, a point, minus signs and the letter of an exponent, and
infinities and values that are not numbers have names of a few letters.  No other character
occurs in the text of a machine number, whatever its bits are and however its digits are
laid out.
-/

namespace Telemetry

def isNumberCharacter (character : Char) : Bool :=
  character.isDigit || ['.', '-', 'e', 'N', 'a', 'i', 'n', 'f'].contains character

/-- All characters of a text are ones that numbers are written with. -/
def IsNumberText (characters : List Char) : Prop :=
  ∀ character ∈ characters, isNumberCharacter character = true

instance (characters : List Char) : Decidable (IsNumberText characters) :=
  List.decidableBAll (isNumberCharacter · = true) characters

namespace IsNumberText

theorem append {first second : List Char} (isFirst : IsNumberText first)
    (isSecond : IsNumberText second) : IsNumberText (first ++ second) :=
  List.forall_mem_append.mpr ⟨isFirst, isSecond⟩

theorem cons {character : Char} {rest : List Char}
    (isFirst : isNumberCharacter character = true) (isRest : IsNumberText rest) :
    IsNumberText (character :: rest) :=
  List.forall_mem_cons.mpr ⟨isFirst, isRest⟩

theorem of_subset {part whole : List Char} (isWhole : IsNumberText whole)
    (isPart : part ⊆ whole) : IsNumberText part :=
  fun character member => isWhole character (isPart member)

theorem replicate (count : Nat) {character : Char}
    (isNumber : isNumberCharacter character = true) :
    IsNumberText (List.replicate count character) := by
  intro other member
  rw [List.eq_of_mem_replicate member]
  exact isNumber

end IsNumberText

theorem isNumberText_toDigits (number : Nat) : IsNumberText (Nat.toDigits 10 number) := by
  intro character member
  have isDigit : character.isDigit = true :=
    Nat.isDigit_of_mem_toDigits (by decide) (by decide) member
  simp [isNumberCharacter, isDigit]

namespace Decimal

theorem isNumberText_positionalChars (keepsPoint : Bool) (decimal : Decimal) :
    IsNumberText (decimal.positionalChars keepsPoint) := by
  have digits : IsNumberText decimal.digitChars := isNumberText_toDigits decimal.digits
  have zeros (count : Nat) : IsNumberText (List.replicate count '0') :=
    IsNumberText.replicate count (by decide)
  unfold positionalChars
  split
  · have ending : IsNumberText (if keepsPoint then ['.', '0'] else []) := by
      cases keepsPoint <;> decide
    exact (digits.append (zeros _)).append ending
  · -- The point is put into the digits, with as many zeros before them as it takes.
    have padded := (zeros ((-decimal.exponent).toNat + 1 - decimal.digitChars.length)).append digits
    apply IsNumberText.append
    · exact padded.of_subset (List.take_subset _ _)
    · exact (padded.of_subset (List.drop_subset _ _)).cons (by decide)

theorem isNumberText_scientificChars (decimal : Decimal) :
    IsNumberText decimal.scientificChars := by
  have digits : IsNumberText decimal.digitChars := isNumberText_toDigits decimal.digits
  have place : IsNumberText (Nat.toDigits 10 decimal.leadingPlace.natAbs) :=
    isNumberText_toDigits _
  have sign : IsNumberText (if decimal.leadingPlace < 0 then ['-'] else []) := by
    split <;> decide
  unfold scientificChars
  apply IsNumberText.append
  · split
    · rename_i first second rest digitsEq
      rw [digitsEq] at digits
      obtain ⟨isFirst, isRest⟩ := List.forall_mem_cons.mp digits
      exact (IsNumberText.cons (by decide) isRest).cons isFirst
    · exact digits
  · exact (sign.append place).cons (by decide)

end Decimal

theorem NumberFormat.isNumberText_chars (format : NumberFormat) (decimal : Decimal) :
    IsNumberText (format.chars decimal) := by
  have layout : format.chars decimal = decimal.positionalChars format.keepsPoint ∨
      format.chars decimal = decimal.scientificChars :=
    ite_eq_or_eq _ _ _
  rcases layout with positional | scientific
  · rw [positional]
    exact decimal.isNumberText_positionalChars format.keepsPoint
  · rw [scientific]
    exact decimal.isNumberText_scientificChars

/-- Whatever the bits are, a sign and a name are all that is put to the digits. -/
theorem isNumberText_textOfBits {magnitudeChars : Binary → List Char}
    (isNumber : ∀ number, IsNumberText (magnitudeChars number)) (bits : UInt64) :
    IsNumberText (textOfBits magnitudeChars bits).toList := by
  dsimp only [textOfBits]
  split
  · decide
  · rw [String.toList_ofList]
    have magnitude : IsNumberText
        (if bits.toNat / Nat.pow 2 52 % Nat.pow 2 11 == 2047 then ['i', 'n', 'f']
          else magnitudeChars (Binary.ofBits bits)) := by
      split
      · decide
      · exact isNumber (Binary.ofBits bits)
    split
    · exact magnitude.cons (by decide)
    · exact magnitude

/-- A machine number in a report line consists of digits, points, minus signs and the letters
of exponents and names. -/
theorem Scalar.isNumberText_text (number : Float) :
    IsNumberText (Scalar.text number).toList :=
  isNumberText_textOfBits (fun magnitude => reportFormat.isNumberText_chars (.shortest magnitude))
    number.toBits

end Telemetry
