import Telemetry.Scalar
import Telemetry.Decimal.Layout
import Telemetry.Decimal.Fixed
import Telemetry.Decimal.Numeral

/-!
# Machine numbers as scalars

Double-precision numbers supply the operations of a scalar.  Their text in
report lines is the shortest decimal that reads back, with a point or an
exponent in every number; messages write the same digits without exponent and
leave the point away from whole numbers.
-/

namespace Telemetry

/-- Report lines write numbers from a ten-thousandth up to ten to the sixteenth
without exponent, and mark whole numbers with a point. -/
def reportFormat : NumberFormat where
  positional? := some (-4, 16)
  keepsPoint := true

/-- Messages never use an exponent, and write whole numbers without a point. -/
def messageFormat : NumberFormat where
  positional? := none
  keepsPoint := false

namespace Binary64

/-- The logarithm of `1 + f` for `1 + f` between the square roots of a half and
of two, increased by `steps` times the logarithm of two and by a small
`correction`.  It is computed from the odd series in `f / (2 + f)`, whose
coefficients are fitted to the interval. -/
def logarithmSeries (steps fraction correction : Float) : Float :=
  let halfSquare := 0.5 * fraction * fraction
  let ratio := fraction / (2.0 + fraction)
  let square := ratio * ratio
  let fourth := square * square
  let evenTerms :=
    fourth * (3.999999999940941908e-01 +
      fourth * (2.222219843214978396e-01 + fourth * 1.531383769920937332e-01))
  let oddTerms :=
    square * (6.666666666666735130e-01 +
      fourth * (2.857142874366239149e-01 +
        fourth * (1.818357216161805012e-01 + fourth * 1.479819860511658591e-01)))
  let series := oddTerms + evenTerms
  ratio * (halfSquare + series) +
    (steps * 1.90821492927058770002e-10 + correction) - halfSquare + fraction +
      steps * 6.93147180369123816490e-01

/-- The exponent bits are counted from the square root of a half, so that the
remaining factor lies around one. -/
def rootShift : UInt64 := 0x3ff00000 - 0x3fe6a09e

/-- The logarithm of one plus a number, accurate also for small numbers.  Away
from zero, one plus the number is split into a power of two and a factor around
one, and the rounding error of the addition is corrected. -/
def logarithmOfOnePlus (value : Float) : Float :=
  if value.isNaN || value < -1.0 then 0.0 / 0.0
  else if value == -1.0 then -1.0 / 0.0
  else if value.isInf then value
  else if value.abs < Float.ofBits 0x3ca0000000000000 then value
  else if Float.ofBits 0xbfd2bec500000000 < value &&
      value < Float.ofBits 0x3fda827a00000000 then
    logarithmSeries 0.0 value 0.0
  else
    let total := 1.0 + value
    let high := (total.toBits >>> 32) + rootShift
    let steps : Int := ((high >>> 20).toNat : Int) - 1023
    let correction :=
      if steps < 54 then
        (if steps ≥ 2 then 1.0 - (total - value) else value - (total - 1.0)) / total
      else 0.0
    let factor :=
      Float.ofBits ((((high &&& 0xfffff) + 0x3fe6a09e) <<< 32) ||| (total.toBits &&& 0xffffffff))
    logarithmSeries (Float.ofInt steps) (factor - 1.0) correction

end Binary64

instance : Scalar Float where
  ofScientific := Float.ofScientific
  ofNat := Float.ofNat
  ofNumeral := Numeral.toFloat
  pi := 3.14159265358979323846
  less first second := first < second
  atMost first second := first ≤ second
  same first second := first == second
  isNegative value := value.toBits >>> 63 == 1
  sqrt := Float.sqrt
  sin := Float.sin
  cos := Float.cos
  tan := Float.tan
  acos := Float.acos
  atan := Float.atan
  atan2 := Float.atan2
  sinh := Float.sinh
  atanh value := 0.5 * Binary64.logarithmOfOnePlus ((2.0 * value) / (1.0 - value))
  log := Float.log
  text value := textOfBits (fun number => reportFormat.chars (.shortest number)) value.toBits
  plainText value := textOfBits (fun number => messageFormat.chars (.shortest number)) value.toBits
  fixedText places value :=
    textOfBits (fun number => (Decimal.roundedToPlaces places number).positionalChars false)
      value.toBits

end Telemetry
