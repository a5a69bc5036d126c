import Telemetry.Scalar

/-!
# Vectors

Three-component vectors over a scalar, with the products that orbits are
computed from.
-/

namespace Telemetry

/-- A vector in the coordinates of the simulation. -/
structure Vec3 (α : Type) where
  x : α
  y : α
  z : α
deriving Repr, DecidableEq

namespace Vec3

variable {α : Type} [Scalar α]

def zero : Vec3 α := ⟨0.0, 0.0, 0.0⟩

instance : Add (Vec3 α) where
  add first second := ⟨first.x + second.x, first.y + second.y, first.z + second.z⟩

instance : Sub (Vec3 α) where
  sub first second := ⟨first.x - second.x, first.y - second.y, first.z - second.z⟩

instance : Neg (Vec3 α) where
  neg vector := ⟨-vector.x, -vector.y, -vector.z⟩

instance : HMul (Vec3 α) α (Vec3 α) where
  hMul vector factor := ⟨vector.x * factor, vector.y * factor, vector.z * factor⟩

instance : HDiv (Vec3 α) α (Vec3 α) where
  hDiv vector divisor := ⟨vector.x / divisor, vector.y / divisor, vector.z / divisor⟩

def dot (first second : Vec3 α) : α :=
  first.x * second.x + first.y * second.y + first.z * second.z

/-- The outer product, by the right-hand rule. -/
def cross (first second : Vec3 α) : Vec3 α where
  x := first.y * second.z - first.z * second.y
  y := first.z * second.x - first.x * second.z
  z := first.x * second.y - first.y * second.x

def lengthSquared (vector : Vec3 α) : α :=
  vector.dot vector

def length (vector : Vec3 α) : α :=
  Scalar.sqrt vector.lengthSquared

def same (first second : Vec3 α) : Bool :=
  Scalar.same first.x second.x && Scalar.same first.y second.y &&
    Scalar.same first.z second.z

end Vec3

end Telemetry
