import Telemetry.Proofs.Orbit.Derivation
import Telemetry.Proofs.Simulation.Barycenter
import Telemetry.Proofs.Simulation.Validity
import Telemetry.Proofs.Evaluation.Failure

/-!
# Lines about orbits around a primary

A primary is one of the particles, and it has no orbit around itself.  A template that
reads orbits therefore has no line as long as a primary is set.  Either the primary has no
mass, and the first particle is at fault, or the fault lies with the first particle that is
in the same place as the primary, which is the primary itself at the latest.
-/

namespace Telemetry

theorem Simulation.orbitAt?_snapshot {α : Type} [Scalar α] (simulation : Simulation α)
    (index : Nat) :
    simulation.snapshot.orbitAt? index = simulation.particles[index]?.map simulation.orbit := by
  rw [Snapshot.orbitAt?, snapshot, List.getElem?_map, Option.map_map]
  rfl

section Exact

variable {K : Type} [Field K] [LinearOrder K] {functions : ElementaryFunctions K}

theorem Vec3.length_sub_self (sqrtZero : functions.sqrt 0 = 0) (vector : Vec3 K) :
    letI := Scalar.exact functions
    (vector - vector).length = 0 := by
  let := Scalar.exact functions
  have noDifference : (vector - vector).lengthSquared = (0 : K) := by
    show (vector.x - vector.x) * (vector.x - vector.x) +
      (vector.y - vector.y) * (vector.y - vector.y) +
      (vector.z - vector.z) * (vector.z - vector.z) = 0
    simp
  rw [length, noDifference]
  exact sqrtZero

namespace Simulation

variable {simulation : Simulation K} {primary : Particle K}

theorem orbit_of_massless :
    letI := Scalar.exact functions
    simulation.referenceBody = primary → primary.mass ≤ Orbit.tiny → ∀ particle,
      simulation.orbit particle = .error .masslessReference := by
  let := Scalar.exact functions
  intro isReference massless particle
  unfold orbit
  rw [isReference, Orbit.derive_eq_error_iff, Scalar.exact_atMost_iff]
  exact .inl ⟨massless, rfl⟩

/-- With mass, the primary is without orbit what lies in its place. -/
theorem orbit_eq_error_iff_of_mass :
    letI := Scalar.exact functions
    simulation.referenceBody = primary → Orbit.tiny < primary.mass → ∀ particle cause,
      (simulation.orbit particle = .error cause ↔
        (particle.position - primary.position).length ≤ Orbit.tiny ∧ cause = .coincident) := by
  let := Scalar.exact functions
  intro isReference hasMass particle cause
  have notMassless : ¬ primary.mass ≤ Orbit.tiny := not_le.mpr hasMass
  unfold orbit
  rw [isReference, Orbit.derive_eq_error_iff, Scalar.exact_atMost_eq_false_iff,
    Scalar.exact_atMost_iff, Scalar.exact_atMost_iff]
  simp only [notMassless, hasMass, false_and, true_and, false_or]

theorem firstDegenerate_of_massless (nonempty : simulation.particles ≠ []) :
    letI := Scalar.exact functions
    simulation.referenceBody = primary → primary.mass ≤ Orbit.tiny →
      simulation.snapshot.FirstDegenerate 0 .masslessReference := by
  let := Scalar.exact functions
  intro isReference massless
  obtain ⟨first, others, particlesEq⟩ := List.exists_cons_of_ne_nil nonempty
  refine ⟨?_, fun earlier isEarlier => absurd isEarlier (Nat.not_lt_zero earlier)⟩
  rw [orbitAt?_snapshot, particlesEq, List.getElem?_cons_zero, Option.map_some,
    orbit_of_massless isReference massless]

end Simulation

variable [IsStrictOrderedRing K]

namespace Simulation

variable (sqrtZero : functions.sqrt 0 = 0) {simulation : Simulation K}
include sqrtZero

/-- A primary with mass is itself without orbit, so that some particle is the first one. -/
theorem exists_firstDegenerate_of_mass {primary : Particle K}
    (member : primary ∈ simulation.particles) :
    letI := Scalar.exact functions
    simulation.referenceBody = primary → Orbit.tiny < primary.mass →
      ∃ index cause, simulation.snapshot.FirstDegenerate index cause := by
  let := Scalar.exact functions
  intro isReference hasMass
  have ownOrbit : simulation.orbit primary = .error .coincident := by
    refine (orbit_eq_error_iff_of_mass isReference hasMass primary .coincident).mpr ⟨?_, rfl⟩
    rw [Vec3.length_sub_self sqrtZero]
    exact Orbit.tiny_nonneg
  obtain ⟨own, ownAt⟩ := List.mem_iff_getElem?.mp member
  have ownBound : own < simulation.snapshot.particleCount := by
    rw [Snapshot.particleCount, snapshot, List.length_map]
    exact (List.getElem?_eq_some_iff.mp ownAt).1
  obtain ⟨error, faultEq⟩ := Snapshot.exists_fault?_iff.mpr
    ⟨own, ownBound, .coincident, by rw [orbitAt?_snapshot, ownAt, Option.map_some, ownOrbit]⟩
  obtain ⟨index, cause, isFirst, -⟩ := Snapshot.fault?_eq_some_iff.mp faultEq
  exact ⟨index, cause, isFirst⟩

/-- A primary leaves no line that reads orbits.  The fault is that of the first particle,
or of the first one that is in the place of the primary. -/
theorem evaluate_of_primary {id : ParticleId} {template : Template}
    (isValid : simulation.validate = .ok ()) (isPrimary : simulation.primary? = some id)
    (readsOrbits : ∃ tag ∈ template.particleTags, tag.isOrbital = true) :
    letI := Scalar.exact functions
    ∃ primary, simulation.particles.filter (·.id = id) = [primary] ∧
      (primary.mass ≤ Orbit.tiny →
        template.evaluate simulation.snapshot =
          .error (.degenerateOrbit 0 .masslessReference)) ∧
      (Orbit.tiny < primary.mass →
        ∃ index particle, simulation.particles[index]? = some particle ∧
          (particle.position - primary.position).length ≤ Orbit.tiny ∧
          (∀ earlier < index, ∀ other, simulation.particles[earlier]? = some other →
            Orbit.tiny < (other.position - primary.position).length) ∧
          template.evaluate simulation.snapshot =
            .error (.degenerateOrbit index .coincident)) := by
  let := Scalar.exact functions
  obtain ⟨primary, named, isReference⟩ := (consistent_iff.mpr isValid).primaryNames id isPrimary
  have member : primary ∈ simulation.particles :=
    List.mem_of_mem_filter (named ▸ List.mem_singleton_self primary)
  refine ⟨primary, named, fun massless => ?_, fun hasMass => ?_⟩
  · exact Template.evaluate_of_firstDegenerate readsOrbits
      (firstDegenerate_of_massless (List.ne_nil_of_mem member) isReference massless)
  · have orbitIff := orbit_eq_error_iff_of_mass isReference hasMass
    obtain ⟨index, cause, isFirst⟩ :=
      exists_firstDegenerate_of_mass sqrtZero member isReference hasMass
    have degenerate := isFirst.degenerate
    rw [orbitAt?_snapshot, Option.map_eq_some_iff] at degenerate
    obtain ⟨particle, particleAt, orbitEq⟩ := degenerate
    obtain ⟨isNear, rfl⟩ := (orbitIff particle cause).mp orbitEq
    refine ⟨index, particle, particleAt, isNear, fun earlier isEarlier other otherAt => ?_,
      Template.evaluate_of_firstDegenerate readsOrbits isFirst⟩
    by_contra notFar
    refine isFirst.least earlier isEarlier .coincident ?_
    rw [orbitAt?_snapshot, otherAt, Option.map_some,
      (orbitIff other .coincident).mpr ⟨not_lt.mp notFar, rfl⟩]

end Simulation

end Exact

namespace Simulation

def aroundPlanet : Simulation ℚ :=
  { starAndPlanet with primary? := some ⟨2⟩ }

/-- A line with a mean over orbits around the planet: the star has one, the planet has
none. -/
theorem evaluate_of_primary_of_planet :
    letI := Scalar.exact .onWholeNumbers
    aroundPlanet.validate = .ok () ∧ aroundPlanet.primary? = some ⟨2⟩ ∧
      Template.particleTags ⟨[.aggregate ⟨.average, .eccentricity, rfl⟩]⟩ = [.eccentricity] ∧
      ParticleTag.isOrbital .eccentricity = true ∧
      Template.evaluate ⟨[.aggregate ⟨.average, .eccentricity, rfl⟩]⟩ aroundPlanet.snapshot =
        .error (.degenerateOrbit 1 .coincident) := by
  let := Scalar.exact .onWholeNumbers
  have isValid : aroundPlanet.validate = .ok () := rfl
  have tagsEq : Template.particleTags ⟨[.aggregate ⟨.average, .eccentricity, rfl⟩]⟩ =
      [.eccentricity] := rfl
  refine ⟨isValid, rfl, tagsEq, rfl, ?_⟩
  have sqrtZero : ElementaryFunctions.onWholeNumbers.sqrt 0 = 0 := rfl
  obtain ⟨primary, named, -, located⟩ := evaluate_of_primary sqrtZero isValid rfl
    ⟨.eccentricity, tagsEq ▸ List.mem_singleton_self _, rfl⟩
  have filterEq : aroundPlanet.particles.filter (·.id = ⟨2⟩) =
      [{ Particle.pointMass ⟨2⟩ "planet" 1 with position := ⟨4, 0, 0⟩ }] := rfl
  obtain rfl := List.singleton_inj.mp (filterEq.symm.trans named)
  obtain ⟨index, particle, particleAt, isNear, -, failed⟩ := located (by decide +kernel)
  -- The star is four units away, and nothing comes behind the planet.
  rcases index with _ | _ | index
  · obtain rfl := Option.some.inj particleAt
    exact absurd isNear (by decide +kernel)
  · exact failed
  · exact absurd particleAt (by simp [aroundPlanet, starAndPlanet, push, empty])

end Simulation

end Telemetry
