import Mathlib.Algebra.BigOperators.Group.List.Basic
import Mathlib.Tactic.FieldSimp
import Mathlib.Tactic.Ring
import Telemetry.Proofs.Scalar.Exact
import Telemetry.Proofs.Vector
import Telemetry.Simulation

/-!
# The barycenter over exact numbers

Over the numbers of an ordered field, the running sums of the barycenter are sums over the
particles, and coordinates can be moved without losing anything.  The barycenter of
particles that are measured from their barycenter is the barycenter measured from itself.
-/

namespace Telemetry

/-! ## Moving the origin -/

section Moving

variable {α : Type} [Scalar α]

/-- The particle as it is seen from a body. -/
def Particle.seenFrom (particle body : Particle α) : Particle α :=
  { particle with
    position := particle.position - body.position
    velocity := particle.velocity - body.velocity }

theorem Simulation.particles_moveToBarycenter (simulation : Simulation α) :
    simulation.moveToBarycenter.particles =
      simulation.particles.map (·.seenFrom (barycenter simulation.particles)) :=
  rfl

/-! ## Running sums -/

theorem mass_barycenter_eq_foldl (particles : List (Particle α)) :
    (barycenter particles).mass =
      particles.foldl (fun total particle => total + particle.mass) 0.0 := by
  unfold barycenter
  dsimp only
  split <;> rfl

/-- Apart from its mass, position and velocity, the barycenter is the same body for all
particles. -/
theorem barycenter_eq (particles : List (Particle α)) :
    barycenter particles =
      { Particle.pointMass ⟨0xffffffff⟩ "barycenter" (barycenter particles).mass with
        position := (barycenter particles).position
        velocity := (barycenter particles).velocity } := by
  unfold barycenter
  dsimp only
  split <;> rfl

/-- The mean of a vector over particles that count with their masses, if these add up to a
positive mass. -/
def weightedMean (read : Particle α → Vec3 α) (particles : List (Particle α)) : Vec3 α :=
  if Scalar.less 0.0 (barycenter particles).mass then
    particles.foldl (fun total particle => total + read particle * particle.mass) Vec3.zero /
      (barycenter particles).mass
  else Vec3.zero

theorem position_barycenter (particles : List (Particle α)) :
    (barycenter particles).position = weightedMean (·.position) particles := by
  rw [weightedMean, mass_barycenter_eq_foldl]
  unfold barycenter
  dsimp only
  split <;> rfl

theorem velocity_barycenter (particles : List (Particle α)) :
    (barycenter particles).velocity = weightedMean (·.velocity) particles := by
  rw [weightedMean, mass_barycenter_eq_foldl]
  unfold barycenter
  dsimp only
  split <;> rfl

end Moving

/-! ## Sums over the particles -/

section Sums

variable {K : Type} [Field K]

def totalMass (particles : List (Particle K)) : K :=
  (particles.map (·.mass)).sum

/-- The sum of a quantity over particles that count with their masses. -/
def massWeighted (quantity : Particle K → K) (particles : List (Particle K)) : K :=
  (particles.map fun particle => quantity particle * particle.mass).sum

theorem foldl_add_eq_sum {Input : Type} (read : Input → K) (inputs : List Input) :
    inputs.foldl (fun total input => total + read input) 0 = (inputs.map read).sum := by
  rw [List.sum_eq_foldl, List.foldl_map]

theorem massWeighted_sub (quantity : Particle K → K) (shift : K)
    (particles : List (Particle K)) :
    massWeighted (fun particle => quantity particle - shift) particles =
      massWeighted quantity particles - shift * totalMass particles := by
  unfold massWeighted totalMass
  induction particles with
  | nil => simp
  | cons particle particles ih =>
      simp only [List.map_cons, List.sum_cons]
      rw [ih]
      ring

section Changes

variable {change : Particle K → Particle K}
  (keepsMass : ∀ particle, (change particle).mass = particle.mass)
include keepsMass

theorem totalMass_map (particles : List (Particle K)) :
    totalMass (particles.map change) = totalMass particles := by
  simp only [totalMass, List.map_map, Function.comp_def, keepsMass]

theorem massWeighted_map (quantity : Particle K → K) (particles : List (Particle K)) :
    massWeighted quantity (particles.map change) =
      massWeighted (fun particle => quantity (change particle)) particles := by
  simp only [massWeighted, List.map_map, Function.comp_def, keepsMass]

end Changes

end Sums

section Exact

variable {K : Type} [Field K] [LinearOrder K] (functions : ElementaryFunctions K)
  (particles : List (Particle K))

theorem mass_barycenter :
    letI := Scalar.exact functions
    (barycenter particles).mass = totalMass particles := by
  let := Scalar.exact functions
  rw [mass_barycenter_eq_foldl, Scalar.exact_zero, foldl_add_eq_sum]
  rfl

theorem component_weightedMean (read : Particle K → Vec3 K) (axis : Axis) :
    letI := Scalar.exact functions
    (weightedMean read particles).component axis =
      if 0 < totalMass particles then
        massWeighted (fun particle => (read particle).component axis) particles /
          totalMass particles
      else 0 := by
  let := Scalar.exact functions
  unfold weightedMean
  rw [mass_barycenter, Scalar.exact_zero]
  simp only [Scalar.exact_less_iff]
  split
  · rw [Vec3.component_div, Vec3.component_foldl, Vec3.component_zero, Scalar.exact_zero]
    simp only [Vec3.component_mul]
    rw [foldl_add_eq_sum]
    rfl
  · rw [Vec3.component_zero, Scalar.exact_zero]

/-- A vector that is measured from its mean has the mean zero. -/
theorem component_weightedMean_map (read : Particle K → Vec3 K)
    {change : Particle K → Particle K}
    (keepsMass : ∀ particle, (change particle).mass = particle.mass) :
    letI := Scalar.exact functions
    (∀ particle, read (change particle) = read particle - weightedMean read particles) →
      ∀ axis, (weightedMean read (particles.map change)).component axis = 0 := by
  intro measured axis
  rw [component_weightedMean, totalMass_map keepsMass, massWeighted_map keepsMass]
  split
  · rename_i positive
    have meanEq := component_weightedMean functions particles read axis
    rw [if_pos positive] at meanEq
    simp only [measured, Vec3.component_sub]
    rw [massWeighted_sub, meanEq]
    field_simp
    simp
  · rfl

/-- Seen from the barycenter, the barycenter rests at the origin. -/
theorem barycenter_map_seenFrom :
    letI := Scalar.exact functions
    barycenter (particles.map (·.seenFrom (barycenter particles))) =
      (barycenter particles).seenFrom (barycenter particles) := by
  let := Scalar.exact functions
  let center := barycenter particles
  have keepsMass (particle : Particle K) : (particle.seenFrom center).mass = particle.mass := rfl
  have positionEq : (barycenter (particles.map (·.seenFrom center))).position =
      center.position - center.position := by
    refine Vec3.ext_component fun axis => ?_
    rw [position_barycenter, Vec3.component_sub, sub_self]
    refine component_weightedMean_map functions particles _ keepsMass (fun particle => ?_) axis
    rw [← position_barycenter]
    rfl
  have velocityEq : (barycenter (particles.map (·.seenFrom center))).velocity =
      center.velocity - center.velocity := by
    refine Vec3.ext_component fun axis => ?_
    rw [velocity_barycenter, Vec3.component_sub, sub_self]
    refine component_weightedMean_map functions particles _ keepsMass (fun particle => ?_) axis
    rw [← velocity_barycenter]
    rfl
  have massEq : (barycenter (particles.map (·.seenFrom center))).mass = center.mass := by
    rw [mass_barycenter, mass_barycenter, totalMass_map keepsMass]
  rw [barycenter_eq, positionEq, velocityEq, massEq, Particle.seenFrom, barycenter_eq particles]

end Exact

/-- A star at the origin and a lighter planet, both at rest. -/
def Simulation.starAndPlanet : Simulation ℚ :=
  letI := Scalar.exact .onWholeNumbers
  (empty.push (.pointMass ⟨1⟩ "star" 3)).push
    { Particle.pointMass ⟨2⟩ "planet" 1 with position := ⟨4, 0, 0⟩ }

end Telemetry
