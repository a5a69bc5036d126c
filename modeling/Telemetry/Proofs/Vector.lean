import Telemetry.Vector

/-!
# Vectors by components

Sums, differences and multiples of vectors are taken component by component, so that one
argument about a component serves all three.
-/

namespace Telemetry

/-- The axes of the coordinates. -/
inductive Axis where
  | x
  | y
  | z
deriving Repr, DecidableEq

namespace Vec3

variable {α : Type}

def component (axis : Axis) (vector : Vec3 α) : α :=
  match axis with
  | .x => vector.x
  | .y => vector.y
  | .z => vector.z

theorem ext_component {first second : Vec3 α}
    (same : ∀ axis, first.component axis = second.component axis) : first = second := by
  obtain ⟨x, y, z⟩ := first
  obtain ⟨otherX, otherY, otherZ⟩ := second
  obtain rfl : x = otherX := same .x
  obtain rfl : y = otherY := same .y
  obtain rfl : z = otherZ := same .z
  rfl

variable [Scalar α]

@[simp]
theorem component_zero (axis : Axis) : (zero : Vec3 α).component axis = 0.0 := by
  cases axis <;> rfl

@[simp]
theorem component_add (first second : Vec3 α) (axis : Axis) :
    (first + second).component axis = first.component axis + second.component axis := by
  cases axis <;> rfl

@[simp]
theorem component_sub (first second : Vec3 α) (axis : Axis) :
    (first - second).component axis = first.component axis - second.component axis := by
  cases axis <;> rfl

@[simp]
theorem component_mul (vector : Vec3 α) (factor : α) (axis : Axis) :
    (vector * factor).component axis = vector.component axis * factor := by
  cases axis <;> rfl

@[simp]
theorem component_div (vector : Vec3 α) (divisor : α) (axis : Axis) :
    (vector / divisor).component axis = vector.component axis / divisor := by
  cases axis <;> rfl

theorem mul_eq (vector : Vec3 α) (factor : α) :
    vector * factor = ⟨vector.x * factor, vector.y * factor, vector.z * factor⟩ :=
  rfl

theorem component_foldl {Input : Type} (read : Input → Vec3 α) (inputs : List Input)
    (start : Vec3 α) (axis : Axis) :
    (inputs.foldl (fun total input => total + read input) start).component axis =
      inputs.foldl (fun total input => total + (read input).component axis)
        (start.component axis) := by
  induction inputs generalizing start with
  | nil => rfl
  | cons input inputs ih => rw [List.foldl_cons, List.foldl_cons, ih, component_add]

end Vec3

end Telemetry
