import Mathlib.Analysis.SpecialFunctions.Artanh
import Mathlib.Analysis.SpecialFunctions.Complex.Arg
import Mathlib.Analysis.SpecialFunctions.Trigonometric.Arctan
import Mathlib.Analysis.SpecialFunctions.Trigonometric.Inverse
import Telemetry.Proofs.Scalar.Exact

/-!
# Real numbers as scalars

The scalars of exact mathematics: the real numbers with their own elementary functions.
Only the reading and the writing of numbers are left open.  Where an elementary function has
no value, as the tangent at a right angle or a root or a logarithm of a negative number, it
is the one that Mathlib sets there.
-/

namespace Telemetry

/-- The elementary functions of the real numbers, with numbers read and written as in
`texts`. -/
noncomputable def ElementaryFunctions.real (texts : ElementaryFunctions ℝ) :
    ElementaryFunctions ℝ :=
  { texts with
    pi := Real.pi
    sqrt := Real.sqrt
    sin := Real.sin
    cos := Real.cos
    tan := Real.tan
    acos := Real.arccos
    atan := Real.arctan
    atan2 := fun y x => Complex.arg ⟨x, y⟩
    sinh := Real.sinh
    atanh := Real.artanh
    log := Real.log }

namespace Scalar

/-- The real numbers as scalars. -/
@[reducible]
noncomputable def real (texts : ElementaryFunctions ℝ) : Scalar ℝ :=
  exact (.real texts)

theorem real_sin_sq_add_cos_sq (texts : ElementaryFunctions ℝ) (angle : ℝ) :
    letI := real texts
    sin angle ^ 2 + cos angle ^ 2 = 1 :=
  Real.sin_sq_add_cos_sq angle

end Scalar

end Telemetry
