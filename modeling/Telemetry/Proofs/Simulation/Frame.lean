import Telemetry.Proofs.Simulation.Barycenter
import Telemetry.Proofs.Evaluation.Agreement
import Telemetry.Proofs.Vector.Exact

/-!
# Orbits and the frame of reference

An orbit is derived from the motion relative to the reference body.  Moving a simulation
into the frame of its barycenter moves the reference body along, whether it is the primary
or the barycenter, so that over exact numbers all orbits stay as they are.  Only tags that
read a position or a velocity itself can tell the frames apart.
-/

namespace Telemetry

/-- The value is measured in the frame of the simulation. -/
def ParticleTag.isFrameBound : ParticleTag → Bool
  | .positionX | .positionY | .positionZ | .velocityX | .velocityY | .velocityZ
  | .distance => true
  | _ => false

namespace Body

variable {α : Type} [Scalar α]

/-- The body with its orbit, as its particle is seen from another. -/
def seenFrom (body : Body α) (center : Particle α) : Body α :=
  { body with particle := body.particle.seenFrom center }

theorem value_seenFrom {tag : ParticleTag} (isFree : tag.isFrameBound = false) (body : Body α)
    (center : Particle α) (index : Nat) :
    tag.value (body.seenFrom center) index = tag.value body index := by
  cases tag with
  | positionX | positionY | positionZ | velocityX | velocityY | velocityZ | distance =>
      exact absurd isFree (by decide)
  | _ => rfl

end Body

theorem Simulation.find?_moveToBarycenter {α : Type} [Scalar α] (simulation : Simulation α)
    (id : ParticleId) :
    simulation.moveToBarycenter.find? id =
      (simulation.find? id).map (·.seenFrom (barycenter simulation.particles)) := by
  rw [find?, find?, particles_moveToBarycenter, List.find?_map]
  rfl

section Exact

variable {K : Type} [Field K] [LinearOrder K] (functions : ElementaryFunctions K)

theorem Orbit.derive_seenFrom (gravity : K) (particle reference center : Particle K) :
    letI := Scalar.exact functions
    derive gravity (particle.seenFrom center) (reference.seenFrom center) =
      derive gravity particle reference := by
  let := Scalar.exact functions
  unfold derive Particle.seenFrom
  simp only [Vec3.sub_sub_sub functions]

namespace Simulation

variable (simulation : Simulation K)

/-- The body that orbits are measured against is moved like the particles. -/
theorem referenceBody_moveToBarycenter :
    letI := Scalar.exact functions
    simulation.moveToBarycenter.referenceBody =
      simulation.referenceBody.seenFrom (barycenter simulation.particles) := by
  let := Scalar.exact functions
  have primaryEq : simulation.moveToBarycenter.primaryParticle? =
      simulation.primaryParticle?.map (·.seenFrom (barycenter simulation.particles)) := by
    unfold primaryParticle?
    rw [show simulation.moveToBarycenter.primary? = simulation.primary? from rfl]
    cases simulation.primary? with
    | none => rfl
    | some id => exact simulation.find?_moveToBarycenter id
  unfold referenceBody
  rw [primaryEq, particles_moveToBarycenter, barycenter_map_seenFrom]
  cases simulation.primaryParticle? <;> rfl

theorem bodies_moveToBarycenter :
    letI := Scalar.exact functions
    simulation.moveToBarycenter.snapshot.bodies =
      simulation.snapshot.bodies.map (·.seenFrom (barycenter simulation.particles)) := by
  let := Scalar.exact functions
  unfold snapshot
  dsimp only
  rw [particles_moveToBarycenter, List.map_map, List.map_map]
  refine List.map_congr_left fun particle _ => ?_
  have sameOrbit : simulation.moveToBarycenter.orbit
      (particle.seenFrom (barycenter simulation.particles)) = simulation.orbit particle := by
    rw [orbit, referenceBody_moveToBarycenter]
    exact Orbit.derive_seenFrom functions _ _ _ _
  simp only [Function.comp_apply, sameOrbit]
  rfl

/-- Bodies agree on every tag that is not bound to the frame. -/
theorem agrees_moveToBarycenter {tags : List ParticleTag}
    (areFree : ∀ tag ∈ tags, tag.isFrameBound = false) :
    letI := Scalar.exact functions
    simulation.moveToBarycenter.snapshot.Agrees tags simulation.snapshot := by
  let := Scalar.exact functions
  constructor
  · intro tag
    cases tag with
    | particleCount =>
        refine congrArg Value.integer ?_
        rw [Snapshot.particleCount, bodies_moveToBarycenter, List.length_map]
        rfl
    | _ => rfl
  · rw [bodies_moveToBarycenter, List.forall₂_map_left_iff]
    refine List.forall₂_same.mpr fun body _ tag member index => ?_
    rw [Body.value_seenFrom (areFree tag member)]

end Simulation

end Exact

/-- In the frame of the barycenter every particle has the orbit, or the lack of one, that it
has in any other frame, and so a line is the same unless it shows the frame. -/
theorem Simulation.moveToBarycenter_keeps_orbits {K : Type} [Field K] [LinearOrder K]
    (functions : ElementaryFunctions K) (simulation : Simulation K) :
    letI := Scalar.exact functions
    (∀ index, simulation.moveToBarycenter.snapshot.orbitAt? index =
        simulation.snapshot.orbitAt? index) ∧
      ∀ template : Template, (∀ tag ∈ template.particleTags, tag.isFrameBound = false) →
        template.evaluate simulation.moveToBarycenter.snapshot =
          template.evaluate simulation.snapshot := by
  let := Scalar.exact functions
  constructor
  · intro index
    rw [Snapshot.orbitAt?, bodies_moveToBarycenter, List.getElem?_map, Option.map_map]
    rfl
  · intro template areFree
    exact Template.evaluate_eq_of_agrees (simulation.agrees_moveToBarycenter functions areFree)

/-! ## Two bodies -/

namespace Simulation

def massesAndDistances : Template :=
  ⟨[.group ⟨[.particle .mass, .literal ",", .particle .referenceDistance, .literal ";"],
    true⟩]⟩

/-- Masses and distances from the barycenter are the same in both frames. -/
theorem moveToBarycenter_keeps_orbits_of_pair :
    letI := Scalar.exact .onWholeNumbers
    massesAndDistances.particleTags = [.mass, .referenceDistance] ∧
      ParticleTag.isFrameBound .mass = false ∧
      ParticleTag.isFrameBound .referenceDistance = false ∧
      starAndPlanet.moveToBarycenter ≠ starAndPlanet ∧
      massesAndDistances.evaluate starAndPlanet.snapshot = .ok "3,1;1,3" ∧
      massesAndDistances.evaluate starAndPlanet.moveToBarycenter.snapshot = .ok "3,1;1,3" := by
  have atRest : letI := Scalar.exact .onWholeNumbers
      massesAndDistances.evaluate starAndPlanet.snapshot = .ok "3,1;1,3" := by
    with_unfolding_all rfl
  have tagsEq : massesAndDistances.particleTags = [.mass, .referenceDistance] := rfl
  refine ⟨tagsEq, rfl, rfl, by decide +kernel, atRest, ?_⟩
  obtain ⟨-, sameLine⟩ := moveToBarycenter_keeps_orbits .onWholeNumbers starAndPlanet
  rw [sameLine massesAndDistances (by rw [tagsEq]; decide)]
  exact atRest

end Simulation

end Telemetry
