import Telemetry.Proofs.Simulation.Barycenter
import Telemetry.Proofs.Vector.Exact

/-!
# Centering

Moving a simulation into the frame of its barycenter takes the same shift off all positions
and the same off all velocities.  Over exact numbers the barycenter then rests at the
origin, so that nothing is left to do for a second move; without positive mass there is
nothing to do for the first.
-/

namespace Telemetry

section Shifting

variable {α : Type} [Scalar α]

/-- What a vector read of one particle differs by from that of another. -/
def Simulation.difference? (simulation : Simulation α) (read : Particle α → Vec3 α)
    (first second : Nat) : Option (Vec3 α) := do
  let particle ← simulation.particles[first]?
  let other ← simulation.particles[second]?
  return read particle - read other

/-- The body is at the origin and does not move. -/
structure Particle.RestsAtOrigin (body : Particle α) : Prop where
  position_eq : body.position = Vec3.zero
  velocity_eq : body.velocity = Vec3.zero

/-- Apart from positions and velocities, the simulations are the same. -/
structure Simulation.DiffersInMotion (moved simulation : Simulation α) : Prop where
  surroundings_eq : moved = { simulation with particles := moved.particles }
  particles_eq : List.Forall₂ (fun after before => after =
    { before with position := after.position, velocity := after.velocity })
    moved.particles simulation.particles

theorem Simulation.differsInMotion_moveToBarycenter (simulation : Simulation α) :
    simulation.moveToBarycenter.DiffersInMotion simulation := by
  refine ⟨rfl, ?_⟩
  rw [particles_moveToBarycenter, List.forall₂_map_left_iff]
  exact List.forall₂_same.mpr fun _ _ => rfl

end Shifting

section Exact

variable {K : Type} [Field K] [LinearOrder K] (functions : ElementaryFunctions K)

namespace Simulation

variable (simulation : Simulation K)

theorem difference?_moveToBarycenter (read : Particle K → Vec3 K) :
    letI := Scalar.exact functions
    (∀ particle : Particle K, read (particle.seenFrom (barycenter simulation.particles)) =
      read particle - read (barycenter simulation.particles)) →
      ∀ first second, simulation.moveToBarycenter.difference? read first second =
        simulation.difference? read first second := by
  let := Scalar.exact functions
  intro shifted first second
  unfold difference?
  rw [particles_moveToBarycenter, List.getElem?_map, List.getElem?_map]
  cases simulation.particles[first]? with
  | none => rfl
  | some particle =>
      cases simulation.particles[second]? with
      | none => rfl
      | some other =>
          refine congrArg some ?_
          rw [shifted, shifted]
          exact Vec3.sub_sub_sub functions _ _ _

/-- Where the barycenter is at rest already, everything stays in its place. -/
theorem moveToBarycenter_of_restsAtOrigin :
    letI := Scalar.exact functions
    (barycenter simulation.particles).RestsAtOrigin → simulation.moveToBarycenter = simulation := by
  let := Scalar.exact functions
  intro atRest
  have unmoved (particle : Particle K) :
      particle.seenFrom (barycenter simulation.particles) = particle := by
    unfold Particle.seenFrom
    rw [atRest.position_eq, atRest.velocity_eq, Vec3.sub_zero_eq, Vec3.sub_zero_eq]
  rw [(simulation.differsInMotion_moveToBarycenter).surroundings_eq, particles_moveToBarycenter]
  simp only [unmoved, List.map_id']

theorem restsAtOrigin_of_massless :
    letI := Scalar.exact functions
    totalMass simulation.particles ≤ 0 → (barycenter simulation.particles).RestsAtOrigin := by
  let := Scalar.exact functions
  intro massless
  have meanEq (read : Particle K → Vec3 K) :
      weightedMean read simulation.particles = Vec3.zero := by
    refine Vec3.ext_component fun axis => ?_
    rw [component_weightedMean, if_neg (not_lt.mpr massless), Vec3.component_zero,
      Scalar.exact_zero]
  exact ⟨(position_barycenter _).trans (meanEq _), (velocity_barycenter _).trans (meanEq _)⟩

theorem restsAtOrigin_moveToBarycenter :
    letI := Scalar.exact functions
    (barycenter simulation.moveToBarycenter.particles).RestsAtOrigin := by
  let := Scalar.exact functions
  rw [particles_moveToBarycenter, barycenter_map_seenFrom]
  exact ⟨Vec3.self_sub_self functions _, Vec3.self_sub_self functions _⟩

theorem mass_barycenter_moveToBarycenter :
    letI := Scalar.exact functions
    (barycenter simulation.moveToBarycenter.particles).mass = totalMass simulation.particles := by
  let := Scalar.exact functions
  have keepsMass (particle : Particle K) :
      (particle.seenFrom (barycenter simulation.particles)).mass = particle.mass := rfl
  rw [mass_barycenter, particles_moveToBarycenter, totalMass_map keepsMass]

end Simulation

end Exact

/-- Moving a simulation of positive mass brings its barycenter to rest at the origin and
keeps everything else, the motion of the particles against each other included.  Without
positive mass, and after a first move, nothing changes. -/
theorem Simulation.moveToBarycenter_centers {K : Type} [Field K] [LinearOrder K]
    (functions : ElementaryFunctions K) (simulation : Simulation K) :
    letI := Scalar.exact functions
    (0 < totalMass simulation.particles →
        (barycenter simulation.moveToBarycenter.particles).mass =
            totalMass simulation.particles ∧
          (barycenter simulation.moveToBarycenter.particles).position = ⟨0, 0, 0⟩ ∧
          (barycenter simulation.moveToBarycenter.particles).velocity = ⟨0, 0, 0⟩) ∧
      (∀ first second,
        simulation.moveToBarycenter.difference? (·.position) first second =
            simulation.difference? (·.position) first second ∧
          simulation.moveToBarycenter.difference? (·.velocity) first second =
            simulation.difference? (·.velocity) first second) ∧
      simulation.moveToBarycenter.DiffersInMotion simulation ∧
      (totalMass simulation.particles ≤ 0 → simulation.moveToBarycenter = simulation) ∧
      simulation.moveToBarycenter.moveToBarycenter = simulation.moveToBarycenter := by
  let := Scalar.exact functions
  have atRest := simulation.restsAtOrigin_moveToBarycenter functions
  refine ⟨fun _ => ⟨simulation.mass_barycenter_moveToBarycenter functions, ?_, ?_⟩,
    fun first second => ⟨?_, ?_⟩, simulation.differsInMotion_moveToBarycenter,
    fun massless => ?_, ?_⟩
  · exact atRest.position_eq.trans (Vec3.zero_eq functions)
  · exact atRest.velocity_eq.trans (Vec3.zero_eq functions)
  · exact simulation.difference?_moveToBarycenter functions _ (fun _ => rfl) first second
  · exact simulation.difference?_moveToBarycenter functions _ (fun _ => rfl) first second
  · exact simulation.moveToBarycenter_of_restsAtOrigin functions
      (simulation.restsAtOrigin_of_massless functions massless)
  · exact simulation.moveToBarycenter.moveToBarycenter_of_restsAtOrigin functions atRest

/-! ## Two bodies -/

namespace Simulation

/-- The planet is left three units from the origin, and the star one unit on the other
side. -/
theorem moveToBarycenter_centers_of_pair :
    letI := Scalar.exact .onWholeNumbers
    0 < totalMass starAndPlanet.particles ∧
      starAndPlanet.moveToBarycenter ≠ starAndPlanet ∧
      starAndPlanet.moveToBarycenter.particles.map (·.position.x) = [-1, 3] ∧
      (barycenter starAndPlanet.moveToBarycenter.particles).mass = 4 ∧
      (barycenter starAndPlanet.moveToBarycenter.particles).position = ⟨0, 0, 0⟩ ∧
      (barycenter starAndPlanet.moveToBarycenter.particles).velocity = ⟨0, 0, 0⟩ ∧
      starAndPlanet.moveToBarycenter.moveToBarycenter = starAndPlanet.moveToBarycenter := by
  let := Scalar.exact .onWholeNumbers
  have massEq : totalMass starAndPlanet.particles = 4 := by decide +kernel
  have positive : 0 < totalMass starAndPlanet.particles := by rw [massEq]; norm_num
  obtain ⟨centered, -, -, -, settled⟩ := moveToBarycenter_centers .onWholeNumbers starAndPlanet
  obtain ⟨sameMass, atOrigin, atRest⟩ := centered positive
  exact ⟨positive, by decide +kernel, by decide +kernel, sameMass.trans massEq, atOrigin, atRest,
    settled⟩

end Simulation

end Telemetry
