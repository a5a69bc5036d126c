import Telemetry.Decimal.Basic

/-!
# Numerals

Numbers as they are written in decimal notation, and the machine numbers that
are nearest to them.
-/

namespace Telemetry

/-- The digits at the start of a text, and what follows them. -/
def splitDigits (text : List Char) : List Char × List Char :=
  (text.takeWhile Char.isDigit, text.dropWhile Char.isDigit)

def naturalOfDigits (digits : List Char) : Nat :=
  digits.foldl (fun value digit => 10 * value + (digit.toNat - '0'.toNat)) 0

/-- The count below a limit that digits denote, with a plus sign before them or
not. -/
def countOfChars? (limit : Nat) (text : List Char) : Option Nat :=
  let digits :=
    match text with
    | '+' :: digits => digits
    | digits => digits
  if digits = [] ∨ !digits.all Char.isDigit then none
  else
    let value := naturalOfDigits digits
    if value < limit then some value else none

/-- A sign at the start of a text, and what follows it. -/
def splitSign : List Char → Bool × List Char
  | '-' :: rest => (true, rest)
  | '+' :: rest => (false, rest)
  | rest => (false, rest)

/-- The exponent that ends a numeral, if the text is one. -/
def exponentOfChars? : List Char → Option Int
  | [] => some 0
  | mark :: rest =>
      if mark = 'e' ∨ mark = 'E' then
        let (isNegative, digits) := splitSign rest
        if digits = [] ∨ !digits.all Char.isDigit then none
        else
          let value : Int := naturalOfDigits digits
          some (if isNegative then -value else value)
      else none

namespace Decimal

/-- An unsigned decimal numeral: digits with a point among, before or behind
them, and an exponent. -/
def ofChars? (text : List Char) : Option Decimal := do
  let (whole, rest) := splitDigits text
  let (fraction, rest) :=
    match rest with
    | '.' :: rest => splitDigits rest
    | rest => ([], rest)
  if whole = [] ∧ fraction = [] then none
  else
    let exponent ← exponentOfChars? rest
    some
      { digits := naturalOfDigits (whole ++ fraction)
        exponent := exponent - (fraction.length : Int) }

/-- The machine number nearest to a decimal.  Decimals far outside the range of
machine numbers are recognised by the place of their leading digit. -/
def toFloat (decimal : Decimal) : Float :=
  if decimal.digits = 0 then 0.0
  else
    let magnitude := decimal.exponent + ((Nat.toDigits 10 decimal.digits).length : Int)
    if magnitude > 400 then 1.0 / 0.0
    else if magnitude < -400 then 0.0
    else Float.ofScientific decimal.digits (decimal.exponent < 0) decimal.exponent.natAbs

end Decimal

namespace Numeral

/-- A signed numeral, or the name of an infinity or of a value that is no
number, in any mixture of upper and lower case. -/
def ofChars? (text : List Char) : Option Numeral :=
  let (isNegative, magnitude) := splitSign text
  let name := magnitude.map Char.toLower
  if name = ['i', 'n', 'f'] ∨ name = ['i', 'n', 'f', 'i', 'n', 'i', 't', 'y'] then
    some (.infinite isNegative)
  else if name = ['n', 'a', 'n'] then
    some .notANumber
  else
    (Decimal.ofChars? magnitude).map (.finite isNegative)

def toFloat : Numeral → Float
  | .finite isNegative magnitude =>
      if isNegative then -magnitude.toFloat else magnitude.toFloat
  | .infinite isNegative => if isNegative then -1.0 / 0.0 else 1.0 / 0.0
  | .notANumber => 0.0 / 0.0

end Numeral

end Telemetry
