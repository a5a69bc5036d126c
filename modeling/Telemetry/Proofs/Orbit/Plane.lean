import Telemetry.Proofs.Vector.Exact
import Telemetry.Orbit.Elements

/-!
# The plane of an orbit

Elements turn the plane of an orbit into space by three angles.  In that plane stand two
vectors of length one at a right angle: towards the pericenter, and a quarter turn ahead of
it.  A vector of the plane is told by two coordinates, and so are products of such vectors.
-/

namespace Telemetry

/-! ## The directions that elements give -/

namespace Elements

section Directions

variable {α : Type} [Scalar α] (elements : Elements α)

/-- The direction towards the pericenter. -/
def pericenterAxis : Vec3 α where
  x := Scalar.cos elements.ascendingNode * Scalar.cos elements.pericenter -
    Scalar.sin elements.ascendingNode * Scalar.sin elements.pericenter *
      Scalar.cos elements.inclination
  y := Scalar.sin elements.ascendingNode * Scalar.cos elements.pericenter +
    Scalar.cos elements.ascendingNode * Scalar.sin elements.pericenter *
      Scalar.cos elements.inclination
  z := Scalar.sin elements.pericenter * Scalar.sin elements.inclination

/-- The direction of motion at the pericenter. -/
def transverseAxis : Vec3 α where
  x := -(Scalar.cos elements.ascendingNode * Scalar.sin elements.pericenter) -
    Scalar.sin elements.ascendingNode * Scalar.cos elements.pericenter *
      Scalar.cos elements.inclination
  y := -(Scalar.sin elements.ascendingNode * Scalar.sin elements.pericenter) +
    Scalar.cos elements.ascendingNode * Scalar.cos elements.pericenter *
      Scalar.cos elements.inclination
  z := Scalar.cos elements.pericenter * Scalar.sin elements.inclination

/-- The direction around which the body turns by the right-hand rule. -/
def normal : Vec3 α where
  x := Scalar.sin elements.ascendingNode * Scalar.sin elements.inclination
  y := -(Scalar.cos elements.ascendingNode * Scalar.sin elements.inclination)
  z := Scalar.cos elements.inclination

/-- The direction in which the body comes up through the reference plane. -/
def nodeAxis : Vec3 α where
  x := Scalar.cos elements.ascendingNode
  y := Scalar.sin elements.ascendingNode
  z := 0.0

/-- The vector of the plane with given coordinates. -/
def inPlane (along across : α) : Vec3 α :=
  elements.pericenterAxis * along + elements.transverseAxis * across

/-- Half the width of the orbit at its focus. -/
def latusRectum : α :=
  elements.semiMajorAxis * (1.0 - elements.eccentricity * elements.eccentricity)

/-- The radius of the circle that the velocity runs through. -/
def speed (parameter : α) : α :=
  Scalar.sqrt (parameter / elements.latusRectum)

end Directions

variable (texts : ElementaryFunctions ℝ) (elements : Elements ℝ)

theorem pericenterAxis_dot_self :
    letI := Scalar.real texts
    elements.pericenterAxis.dot elements.pericenterAxis = 1 := by
  let := Scalar.real texts
  have node := Scalar.real_sin_sq_add_cos_sq texts elements.ascendingNode
  have pericenter := Scalar.real_sin_sq_add_cos_sq texts elements.pericenter
  have tilt := Scalar.real_sin_sq_add_cos_sq texts elements.inclination
  unfold Vec3.dot pericenterAxis
  linear_combination
    (Scalar.cos elements.pericenter ^ 2 +
      Scalar.sin elements.pericenter ^ 2 * Scalar.cos elements.inclination ^ 2) * node +
    Scalar.sin elements.pericenter ^ 2 * tilt + pericenter

/-- A quarter turn of the pericenter takes one direction to the other. -/
theorem transverseAxis_eq :
    letI := Scalar.real texts
    elements.transverseAxis =
      pericenterAxis { elements with pericenter := elements.pericenter + Real.pi / 2 } := by
  let := Scalar.real texts
  have sineEq : Scalar.sin (elements.pericenter + Real.pi / 2) =
      Scalar.cos elements.pericenter := Real.sin_add_pi_div_two _
  have cosineEq : Scalar.cos (elements.pericenter + Real.pi / 2) =
      -Scalar.sin elements.pericenter := Real.cos_add_pi_div_two _
  refine Vec3.ext_component fun axis => ?_
  unfold Vec3.component transverseAxis pericenterAxis
  cases axis <;> simp only [sineEq, cosineEq] <;> ring

theorem transverseAxis_dot_self :
    letI := Scalar.real texts
    elements.transverseAxis.dot elements.transverseAxis = 1 := by
  rw [transverseAxis_eq]
  exact pericenterAxis_dot_self texts _

theorem pericenterAxis_dot_transverseAxis :
    letI := Scalar.real texts
    elements.pericenterAxis.dot elements.transverseAxis = 0 := by
  let := Scalar.real texts
  have node := Scalar.real_sin_sq_add_cos_sq texts elements.ascendingNode
  have tilt := Scalar.real_sin_sq_add_cos_sq texts elements.inclination
  unfold Vec3.dot pericenterAxis transverseAxis
  linear_combination
    Scalar.sin elements.pericenter * Scalar.cos elements.pericenter *
      ((Scalar.cos elements.inclination ^ 2 - 1) * node + tilt)

theorem pericenterAxis_cross_transverseAxis :
    letI := Scalar.real texts
    elements.pericenterAxis.cross elements.transverseAxis = elements.normal := by
  let := Scalar.real texts
  have node := Scalar.real_sin_sq_add_cos_sq texts elements.ascendingNode
  have pericenter := Scalar.real_sin_sq_add_cos_sq texts elements.pericenter
  refine Vec3.ext_component fun axis => ?_
  unfold Vec3.cross Vec3.component pericenterAxis transverseAxis normal
  cases axis with
  | x =>
    dsimp only
    linear_combination
      Scalar.sin elements.ascendingNode * Scalar.sin elements.inclination * pericenter
  | y =>
    dsimp only
    linear_combination
      -(Scalar.cos elements.ascendingNode * Scalar.sin elements.inclination) * pericenter
  | z =>
    dsimp only
    linear_combination
      Scalar.cos elements.inclination * node +
        Scalar.cos elements.inclination *
          (Scalar.sin elements.ascendingNode ^ 2 + Scalar.cos elements.ascendingNode ^ 2) *
          pericenter

theorem normal_dot_self :
    letI := Scalar.real texts
    elements.normal.dot elements.normal = 1 := by
  let := Scalar.real texts
  have node := Scalar.real_sin_sq_add_cos_sq texts elements.ascendingNode
  have tilt := Scalar.real_sin_sq_add_cos_sq texts elements.inclination
  unfold Vec3.dot normal
  linear_combination Scalar.sin elements.inclination ^ 2 * node + tilt

theorem nodeAxis_dot_self :
    letI := Scalar.real texts
    elements.nodeAxis.dot elements.nodeAxis = 1 := by
  let := Scalar.real texts
  have node := Scalar.real_sin_sq_add_cos_sq texts elements.ascendingNode
  unfold Vec3.dot nodeAxis
  rw [Scalar.exact_zero]
  linear_combination node

theorem nodeAxis_dot_pericenterAxis :
    letI := Scalar.real texts
    elements.nodeAxis.dot elements.pericenterAxis = Scalar.cos elements.pericenter := by
  let := Scalar.real texts
  have node := Scalar.real_sin_sq_add_cos_sq texts elements.ascendingNode
  unfold Vec3.dot nodeAxis pericenterAxis
  rw [Scalar.exact_zero]
  linear_combination Scalar.cos elements.pericenter * node

theorem inPlane_zero (along : ℝ) :
    letI := Scalar.real texts
    elements.inPlane along 0 = elements.pericenterAxis * along := by
  let := Scalar.real texts
  refine Vec3.ext_component fun axis => ?_
  unfold inPlane
  rw [Vec3.component_add, Vec3.component_mul, Vec3.component_mul]
  ring

theorem inPlane_dot_inPlane (a b c d : ℝ) :
    letI := Scalar.real texts
    (elements.inPlane a b).dot (elements.inPlane c d) = a * c + b * d := by
  let := Scalar.real texts
  unfold inPlane
  rw [Vec3.dot_combination, pericenterAxis_dot_self, transverseAxis_dot_self,
    pericenterAxis_dot_transverseAxis]
  ring

theorem inPlane_cross_inPlane (a b c d : ℝ) :
    letI := Scalar.real texts
    (elements.inPlane a b).cross (elements.inPlane c d) = elements.normal * (a * d - b * c) := by
  let := Scalar.real texts
  unfold inPlane
  rw [Vec3.cross_combination, pericenterAxis_cross_transverseAxis]

theorem latusRectum_eq :
    letI := Scalar.real texts
    elements.latusRectum = elements.semiMajorAxis * (1 - elements.eccentricity ^ 2) := by
  let := Scalar.real texts
  unfold latusRectum
  rw [Scalar.exact_one, sq]

theorem radius_eq :
    letI := Scalar.real texts
    elements.radius = elements.latusRectum /
      (1 + elements.eccentricity * Scalar.cos elements.trueAnomaly) := by
  let := Scalar.real texts
  unfold radius latusRectum
  rw [Scalar.exact_one]

theorem position_eq_inPlane :
    letI := Scalar.real texts
    elements.position =
      elements.inPlane (elements.radius * Scalar.cos elements.trueAnomaly)
        (elements.radius * Scalar.sin elements.trueAnomaly) := by
  let := Scalar.real texts
  refine Vec3.ext_component fun axis => ?_
  unfold inPlane
  rw [Vec3.component_add, Vec3.component_mul, Vec3.component_mul]
  unfold Vec3.component position pericenterAxis transverseAxis
  cases axis <;> dsimp only <;> ring

theorem velocity_eq_inPlane (parameter : ℝ) :
    letI := Scalar.real texts
    elements.velocity parameter =
      elements.inPlane (-(elements.speed parameter * Scalar.sin elements.trueAnomaly))
        (elements.speed parameter *
          (elements.eccentricity + Scalar.cos elements.trueAnomaly)) := by
  let := Scalar.real texts
  refine Vec3.ext_component fun axis => ?_
  unfold inPlane
  rw [Vec3.component_add, Vec3.component_mul, Vec3.component_mul]
  unfold Vec3.component velocity pericenterAxis transverseAxis
  cases axis <;> dsimp only <;> unfold speed latusRectum <;> ring

theorem lengthSquared_velocity (parameter : ℝ) :
    letI := Scalar.real texts
    (elements.velocity parameter).lengthSquared = elements.speed parameter ^ 2 *
      (1 + 2 * elements.eccentricity * Scalar.cos elements.trueAnomaly +
        elements.eccentricity ^ 2) := by
  let := Scalar.real texts
  have circle := Scalar.real_sin_sq_add_cos_sq texts elements.trueAnomaly
  unfold Vec3.lengthSquared
  rw [velocity_eq_inPlane, inPlane_dot_inPlane]
  linear_combination elements.speed parameter ^ 2 * circle

theorem position_dot_velocity (parameter : ℝ) :
    letI := Scalar.real texts
    elements.position.dot (elements.velocity parameter) = elements.radius *
      (elements.speed parameter * elements.eccentricity * Scalar.sin elements.trueAnomaly) := by
  let := Scalar.real texts
  rw [position_eq_inPlane, velocity_eq_inPlane, inPlane_dot_inPlane]
  ring

end Elements

end Telemetry
