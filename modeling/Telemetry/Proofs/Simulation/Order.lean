import Telemetry.Proofs.Simulation.Barycenter
import Telemetry.Proofs.Simulation.Validity
import Telemetry.Proofs.Evaluation.Failure

/-!
# The order of the particles

Outside of groups a line shows particles only through reductions.  Over exact numbers these
do not depend on the order of the particles: sums do not, the barycenter is made of sums, and
a primary is found by its identifier, which no other particle of a valid simulation has.  A
line can fail for another particle when the order changes, but it fails in every order or in
none.
-/

namespace Telemetry

/-! ## Sums in any order -/

section Exact

variable {K : Type} [Field K] [LinearOrder K] (functions : ElementaryFunctions K)

theorem Scalar.exact_sum (values : List K) :
    letI := Scalar.exact functions
    Scalar.sum values = values.sum := by
  let := Scalar.exact functions
  unfold Scalar.sum
  rw [exact_zero, neg_zero, List.sum_eq_foldl]

namespace Reduction

theorem mean_perm {first second : List K} (reordered : first.Perm second) :
    letI := Scalar.exact functions
    mean first = mean second := by
  let := Scalar.exact functions
  unfold mean
  rw [Scalar.exact_sum, Scalar.exact_sum, reordered.sum_eq, reordered.length_eq]

theorem apply_perm (reduction : Reduction) {first second : List K}
    (reordered : first.Perm second) :
    letI := Scalar.exact functions
    reduction.apply first = reduction.apply second := by
  let := Scalar.exact functions
  cases reduction with
  | average => exact mean_perm functions reordered
  | deviation =>
      unfold apply
      dsimp only
      rw [mean_perm functions reordered, mean_perm functions (reordered.map _)]

end Reduction

theorem Aggregate.reduce_perm (aggregate : Aggregate) {first second : List (Value K)}
    (reordered : first.Perm second) :
    letI := Scalar.exact functions
    aggregate.reduce first = aggregate.reduce second := by
  let := Scalar.exact functions
  have sameScalar := aggregate.reduction.apply_perm functions
    (reordered.filterMap Value.asScalar?)
  have sameComponent (component : Vec3 K → K) := aggregate.reduction.apply_perm functions
    ((reordered.filterMap Value.asVector?).map component)
  unfold reduce
  dsimp only
  rw [sameScalar, sameComponent, sameComponent, sameComponent]

/-! ## The reference body -/

theorem weightedMean_perm (read : Particle K → Vec3 K) {first second : List (Particle K)}
    (reordered : first.Perm second) :
    letI := Scalar.exact functions
    weightedMean read first = weightedMean read second := by
  let := Scalar.exact functions
  have sameMass : totalMass first = totalMass second := (reordered.map _).sum_eq
  have sameWeighted (quantity : Particle K → K) :
      massWeighted quantity first = massWeighted quantity second :=
    (reordered.map _).sum_eq
  apply Vec3.ext_component
  intro axis
  rw [component_weightedMean, component_weightedMean, sameMass, sameWeighted]

theorem barycenter_perm {first second : List (Particle K)} (reordered : first.Perm second) :
    letI := Scalar.exact functions
    barycenter first = barycenter second := by
  let := Scalar.exact functions
  have sameMass : (barycenter first).mass = (barycenter second).mass := by
    rw [mass_barycenter, mass_barycenter]
    exact (reordered.map _).sum_eq
  have samePosition : (barycenter first).position = (barycenter second).position := by
    rw [position_barycenter, position_barycenter, weightedMean_perm functions _ reordered]
  have sameVelocity : (barycenter first).velocity = (barycenter second).velocity := by
    rw [velocity_barycenter, velocity_barycenter, weightedMean_perm functions _ reordered]
  rw [barycenter_eq, sameMass, samePosition, sameVelocity, ← barycenter_eq]

namespace Simulation

/-- Orbits are measured against the same body in every order. -/
theorem referenceBody_perm {first second : Simulation K} (isValid : first.validate = .ok ())
    (samePrimary : second.primary? = first.primary?)
    (reordered : second.particles.Perm first.particles) :
    letI := Scalar.exact functions
    second.referenceBody = first.referenceBody := by
  let := Scalar.exact functions
  cases primaryEq : first.primary? with
  | none =>
      rw [referenceBody_of_unset primaryEq, referenceBody_of_unset (samePrimary.trans primaryEq),
        barycenter_perm functions reordered]
  | some id =>
      obtain ⟨primary, named, isReference⟩ :=
        (consistent_iff.mpr isValid).primaryNames id primaryEq
      have namedInSecond : second.particles.filter (·.id = id) = [primary] := by
        apply List.perm_singleton.mp
        rw [← named]
        exact reordered.filter _
      rw [isReference]
      exact referenceBody_of_named (samePrimary.trans primaryEq) namedInSecond

theorem bodies_perm {simulation : Simulation K} {particles : List (Particle K)}
    (isValid : simulation.validate = .ok ())
    (reordered : particles.Perm simulation.particles) :
    letI := Scalar.exact functions
    { simulation with particles := particles }.snapshot.bodies.Perm
      simulation.snapshot.bodies := by
  let := Scalar.exact functions
  let other := { simulation with particles := particles }
  have sameReference : other.referenceBody = simulation.referenceBody :=
    referenceBody_perm functions isValid rfl reordered
  have sameOrbit (particle : Particle K) : other.orbit particle = simulation.orbit particle := by
    rw [orbit, sameReference]
    rfl
  show (particles.map fun particle => (⟨particle, other.orbit particle⟩ : Body K)).Perm _
  simp only [sameOrbit]
  exact reordered.map _

end Simulation

end Exact

/-! ## Values apart from positions -/

section Values

variable {α : Type} [Scalar α]

/-- The value of a tag for a body, if it has one.  The position of the body only matters to
the error. -/
def ParticleTag.value? (body : Body α) (tag : ParticleTag) : Option (Value α) :=
  (tag.value body 0).outcome.toOption

theorem ParticleTag.toOption_value (tag : ParticleTag) (body : Body α) (index : Nat) :
    (tag.value body index).outcome.toOption = tag.value? body := by
  obtain ⟨particle, orbit⟩ := body
  cases orbit with
  | error cause => cases tag <;> rfl
  | ok orbit => cases tag <;> rfl

/-- A reduction succeeds if there are particles and all of them have a value. -/
theorem Aggregate.meaning_eq_ok_iff {snapshot : Snapshot α} {aggregate : Aggregate}
    {value : Value α} :
    aggregate.meaning snapshot = .ok value ↔
      snapshot.bodies ≠ [] ∧
        (∀ body ∈ snapshot.bodies, (aggregate.tag.value? body).isSome) ∧
          aggregate.reduce (snapshot.bodies.filterMap aggregate.tag.value?) = value := by
  unfold meaning
  by_cases empty : snapshot.bodies = []
  · simp [empty]
  · have sampled (sample : List (Value α)) :
        (snapshot.bodies.zipIdx.mapM fun indexed =>
          (aggregate.tag.value indexed.1 indexed.2).outcome) = .ok sample ↔
        (∀ body ∈ snapshot.bodies, (aggregate.tag.value? body).isSome) ∧
          snapshot.bodies.filterMap aggregate.tag.value? = sample :=
      mapM_zipIdx_eq_ok_iff aggregate.tag.toOption_value
    rw [if_neg empty, bind_eq_ok_iff, and_iff_right empty]
    simp only [sampled, pure_eq_ok_iff]
    constructor
    · rintro ⟨sample, ⟨resolved, rfl⟩, rfl⟩
      exact ⟨resolved, rfl⟩
    · rintro ⟨resolved, rfl⟩
      exact ⟨_, ⟨resolved, rfl⟩, rfl⟩

end Values

/-! ## Lines -/

/-- Snapshots with the same quantities of the simulation and the same bodies, which may come
in another order. -/
structure Snapshot.IsReordering {α : Type} (first second : Snapshot α) : Prop where
  simulation : ∀ tag : SimulationTag, tag.value first = tag.value second
  bodies : first.bodies.Perm second.bodies

section Exact

variable {K : Type} [Field K] [LinearOrder K] (functions : ElementaryFunctions K)
  {first second : Snapshot K}

theorem Aggregate.meaning_eq_ok_iff_of_reordering (reordering : first.IsReordering second)
    (aggregate : Aggregate) (value : Value K) :
    letI := Scalar.exact functions
    aggregate.meaning first = .ok value ↔ aggregate.meaning second = .ok value := by
  let := Scalar.exact functions
  have sameEmpty : first.bodies ≠ [] ↔ second.bodies ≠ [] := by
    rw [← List.length_pos_iff, ← List.length_pos_iff, reordering.bodies.length_eq]
  have sameValue := aggregate.reduce_perm functions
    (reordering.bodies.filterMap aggregate.tag.value?)
  rw [meaning_eq_ok_iff, meaning_eq_ok_iff, sameEmpty, sameValue]
  simp only [reordering.bodies.mem_iff]

theorem Node.meaning_eq_ok_iff_of_reordering (reordering : first.IsReordering second)
    {node : Node} (noGroup : ∀ group, node ≠ .group group) (text : String) :
    letI := Scalar.exact functions
    node.meaning first = .ok text ↔ node.meaning second = .ok text := by
  let := Scalar.exact functions
  cases node with
  | literal literal => exact Iff.rfl
  | simulation tag =>
      rw [meaning, meaning, reordering.simulation]
  | aggregate reduced =>
      have sameMeaning := reduced.meaning_eq_ok_iff_of_reordering functions reordering
      rw [meaning, meaning, map_eq_ok_iff, map_eq_ok_iff]
      simp only [sameMeaning]
  | group block => exact absurd rfl (noGroup block)

theorem Template.evaluate_eq_ok_iff_of_reordering (reordering : first.IsReordering second)
    {template : Template} (noGroups : ∀ group, .group group ∉ template.nodes) (line : String) :
    letI := Scalar.exact functions
    template.evaluate first = .ok line ↔ template.evaluate second = .ok line := by
  let := Scalar.exact functions
  have sameTexts (texts : List String) :
      template.nodes.mapM (Node.meaning first) = .ok texts ↔
        template.nodes.mapM (Node.meaning second) = .ok texts := by
    rw [mapM_eq_ok_iff, mapM_eq_ok_iff]
    apply forall₂_congr_of_mem
    intro node member text
    apply Node.meaning_eq_ok_iff_of_reordering functions reordering
    rintro group rfl
    exact noGroups group member
  rw [evaluate, evaluate, outcome_evaluateMetered, outcome_evaluateMetered, meaning, meaning,
    bind_eq_ok_iff, bind_eq_ok_iff]
  simp only [sameTexts]

namespace Simulation

theorem isReordering_snapshot {simulation : Simulation K} {particles : List (Particle K)}
    (isValid : simulation.validate = .ok ())
    (reordered : particles.Perm simulation.particles) :
    letI := Scalar.exact functions
    { simulation with particles := particles }.snapshot.IsReordering simulation.snapshot := by
  let := Scalar.exact functions
  have bodies := bodies_perm functions isValid reordered
  refine ⟨fun tag => ?_, bodies⟩
  cases tag with
  | particleCount => exact congrArg Value.integer bodies.length_eq
  | _ => rfl

/-- A line without groups is the same in every order of the particles, or fails in every
order.  Without particles it fails for a reduction over nothing. -/
theorem evaluate_of_perm {simulation : Simulation K} {particles : List (Particle K)}
    {template : Template} (isValid : simulation.validate = .ok ())
    (reordered : particles.Perm simulation.particles)
    (noGroups : ∀ group, .group group ∉ template.nodes) :
    letI := Scalar.exact functions
    let other := { simulation with particles := particles }
    (∃ line, template.evaluate simulation.snapshot = .ok line ∧
      template.evaluate other.snapshot = .ok line) ∨
    ∃ error otherError, template.evaluate simulation.snapshot = .error error ∧
      template.evaluate other.snapshot = .error otherError ∧
      (simulation.particles = [] →
        error = otherError ∧ ∃ reduced, .aggregate reduced ∈ template.nodes ∧
          error = .emptyAggregate reduced.tag) := by
  let := Scalar.exact functions
  intro other
  have sameLine := Template.evaluate_eq_ok_iff_of_reordering functions
    (isReordering_snapshot functions isValid reordered) noGroups
  cases evaluated : template.evaluate simulation.snapshot with
  | ok line => exact .inl ⟨line, rfl, (sameLine line).mpr evaluated⟩
  | error error =>
      cases otherEvaluated : template.evaluate other.snapshot with
      | ok line =>
          rw [(sameLine line).mp otherEvaluated] at evaluated
          exact absurd evaluated (by simp)
      | error otherError =>
          refine .inr ⟨error, otherError, rfl, rfl, fun empty => ?_⟩
          have otherEmpty : particles = [] := by
            rw [empty] at reordered
            exact reordered.eq_nil
          have sameSnapshot : other = simulation := by
            show { simulation with particles := particles } = simulation
            rw [otherEmpty, ← empty]
          have noBodies : simulation.snapshot.bodies = [] := by
            rw [snapshot, empty]
            rfl
          have failed := failure?_eq_some_iff.mpr evaluated
          rw [Template.failure?_evaluate_of_empty noBodies] at failed
          obtain ⟨before, reduced, after, nodesEq, -, errorEq⟩ := failed
          rw [sameSnapshot, evaluated] at otherEvaluated
          refine ⟨Except.error.inj otherEvaluated, reduced, ?_, errorEq⟩
          rw [nodesEq]
          simp

end Simulation

end Exact

namespace Simulation

def meanDistanceAndSpread : Template :=
  ⟨[.aggregate ⟨.average, .referenceDistance, rfl⟩, .literal ",",
    .aggregate ⟨.deviation, .mass, rfl⟩]⟩

/-- The planet may stand before the star. -/
theorem evaluate_of_perm_of_pair :
    letI := Scalar.exact .onWholeNumbers
    let swapped := starAndPlanet.particles.reverse
    starAndPlanet.validate = .ok () ∧ swapped.Perm starAndPlanet.particles ∧
      swapped ≠ starAndPlanet.particles ∧
      (∀ group, .group group ∉ meanDistanceAndSpread.nodes) ∧
      meanDistanceAndSpread.evaluate starAndPlanet.snapshot = .ok "2,1" ∧
      meanDistanceAndSpread.evaluate { starAndPlanet with particles := swapped }.snapshot =
        .ok "2,1" := by
  let := Scalar.exact .onWholeNumbers
  have isValid : starAndPlanet.validate = .ok () := rfl
  have reordered : starAndPlanet.particles.reverse.Perm starAndPlanet.particles :=
    List.reverse_perm _
  have noGroups (group : Group) : .group group ∉ meanDistanceAndSpread.nodes := by
    simp [meanDistanceAndSpread]
  have evaluated : meanDistanceAndSpread.evaluate starAndPlanet.snapshot = .ok "2,1" := by
    decide +kernel
  refine ⟨isValid, reordered, by decide +kernel, noGroups, evaluated, ?_⟩
  rcases evaluate_of_perm .onWholeNumbers isValid reordered noGroups with
    ⟨line, lineEq, sameLine⟩ | ⟨error, -, failed, -⟩
  · rw [evaluated] at lineEq
    rw [sameLine, ← Except.ok.inj lineEq]
  · rw [evaluated] at failed
    exact absurd failed (by simp)

end Simulation

end Telemetry
