import Telemetry.Proofs.Evaluation.Denotation

/-!
# When a line cannot be rendered

Reductions run over all particles when they are first met, while a tag of one
particle is taken for the particle at hand only.  In every order of nodes and
items the same fault comes first all the same: without particles, the first
reduction outside a group; with particles, the first particle without an orbit,
as soon as any tag of the template reads orbits.
-/

namespace Telemetry

variable {α : Type}

namespace Body

/-- The fault that looking up the orbit of the body at a position meets. -/
def fault? (repetition : Body α × Nat) : Option EvaluationError :=
  (failure? repetition.1.orbit).map (.degenerateOrbit repetition.2)

end Body

namespace Snapshot

def orbitAt? (snapshot : Snapshot α) (index : Nat) : Option (Except OrbitError (Orbit α)) :=
  snapshot.bodies[index]?.map Body.orbit

/-- The particle at an index has no orbit for a given cause, and all particles
before it have one. -/
structure FirstDegenerate (snapshot : Snapshot α) (index : Nat) (cause : OrbitError) :
    Prop where
  degenerate : snapshot.orbitAt? index = some (.error cause)
  least : ∀ earlier < index, ∀ other, snapshot.orbitAt? earlier ≠ some (.error other)

def fault? (snapshot : Snapshot α) : Option EvaluationError :=
  snapshot.bodies.zipIdx.findSome? Body.fault?

theorem fault?_eq_some_iff {snapshot : Snapshot α} {error : EvaluationError} :
    snapshot.fault? = some error ↔
      ∃ index cause, snapshot.FirstDegenerate index cause ∧
        error = .degenerateOrbit index cause := by
  unfold fault?
  rw [findSome?_zipIdx_eq_some_iff]
  constructor
  · rintro ⟨index, body, bodyAt, faulty, least⟩
    simp only [Body.fault?, Option.map_eq_some_iff, Nat.zero_add, failure?_eq_some_iff] at faulty
    obtain ⟨cause, orbitEq, rfl⟩ := faulty
    refine ⟨index, cause, ⟨by rw [orbitAt?, bodyAt, Option.map_some, orbitEq], ?_⟩, rfl⟩
    intro earlier isEarlier other otherFails
    obtain ⟨before, beforeAt, beforeOrbit⟩ := Option.map_eq_some_iff.mp otherFails
    have sound := least earlier isEarlier before beforeAt
    rw [Body.fault?, beforeOrbit] at sound
    exact absurd sound (by simp [failure?])
  · rintro ⟨index, cause, ⟨degenerate, least⟩, rfl⟩
    obtain ⟨body, bodyAt, orbitEq⟩ := Option.map_eq_some_iff.mp degenerate
    refine ⟨index, body, bodyAt, by simp [Body.fault?, orbitEq, failure?], ?_⟩
    intro earlier isEarlier before beforeAt
    have sound := least earlier isEarlier
    rw [orbitAt?, beforeAt] at sound
    cases orbitEq : before.orbit with
    | ok orbit => simp [Body.fault?, orbitEq, failure?]
    | error other => exact absurd (congrArg some orbitEq) (sound other)

theorem exists_fault?_iff {snapshot : Snapshot α} :
    (∃ error, snapshot.fault? = some error) ↔
      ∃ index < snapshot.particleCount, ∃ cause,
        snapshot.orbitAt? index = some (.error cause) := by
  rw [← Option.isSome_iff_exists, fault?, List.findSome?_isSome_iff]
  constructor
  · rintro ⟨⟨body, index⟩, member, faulty⟩
    have bodyAt : snapshot.bodies[index]? = some body :=
      List.mem_zipIdx_iff_getElem?.mp member
    obtain ⟨inBounds, -⟩ := List.getElem?_eq_some_iff.mp bodyAt
    cases orbitEq : body.orbit with
    | ok orbit => simp [Body.fault?, orbitEq, failure?] at faulty
    | error cause =>
        exact ⟨index, inBounds, cause, by rw [orbitAt?, bodyAt, Option.map_some, orbitEq]⟩
  · rintro ⟨index, -, cause, degenerate⟩
    obtain ⟨body, bodyAt, orbitEq⟩ := Option.map_eq_some_iff.mp degenerate
    refine ⟨(body, index), List.mem_zipIdx_iff_getElem?.mpr bodyAt, ?_⟩
    simp [Body.fault?, orbitEq, failure?]

end Snapshot

/-! ## The tags that a template mentions -/

namespace Item

def particleTag? : Item → Option ParticleTag
  | .particle tag => some tag
  | .aggregate reduced => some reduced.tag
  | _ => none

def isOrbital : Item → Bool
  | .particle tag => tag.isOrbital
  | .aggregate reduced => reduced.tag.isOrbital
  | _ => false

theorem any_particleTag? (items : List Item) :
    (items.filterMap particleTag?).any ParticleTag.isOrbital = items.any isOrbital := by
  rw [List.any_filterMap]
  congr 1
  funext item
  cases item <;> rfl

end Item

def Node.particleTags : Node → List ParticleTag
  | .aggregate reduced => [reduced.tag]
  | .group block => block.items.filterMap Item.particleTag?
  | _ => []

/-- The particle tags that stand in a template, inside groups or not, reduced or
not. -/
def Template.particleTags (template : Template) : List ParticleTag :=
  template.nodes.flatMap Node.particleTags

variable [Scalar α] {snapshot : Snapshot α}

/-! ## One value -/

/-- The tags marked as orbital are those that look the orbit up. -/
theorem ParticleTag.failure?_value (tag : ParticleTag) (body : Body α) (index : Nat) :
    failure? (tag.value body index).outcome =
      if tag.isOrbital then Body.fault? (body, index) else none := by
  -- Both sides are tables over the tags, so each tag is looked up in both.
  obtain ⟨particle, orbit⟩ := body
  cases orbit with
  | error cause => cases tag <;> rfl
  | ok orbit => cases tag <;> rfl

theorem Aggregate.failure?_meaning (nonempty : snapshot.bodies ≠ []) (reduced : Aggregate) :
    failure? (reduced.meaning snapshot) =
      if reduced.tag.isOrbital then snapshot.fault? else none := by
  unfold Aggregate.meaning
  rw [if_neg nonempty, failure?_bind_pure, failure?_mapM]
  simp only [ParticleTag.failure?_value]
  cases reduced.tag.isOrbital with
  | true => rfl
  | false => exact List.findSome?_eq_none_iff.mpr fun _ _ => rfl

namespace Item

/-- Inside a group, a tag of one particle fails for that particle; a reduction
fails for the first particle that has no orbit. -/
theorem failure?_meaning (nonempty : snapshot.bodies ≠ []) (body : Body α) (index : Nat)
    (item : Item) :
    failure? (item.meaning snapshot body index) =
      match item with
      | .particle tag => if tag.isOrbital then Body.fault? (body, index) else none
      | .aggregate reduced => if reduced.tag.isOrbital then snapshot.fault? else none
      | _ => none := by
  cases item with
  | literal text => rfl
  | simulation tag => rfl
  | particle tag =>
      unfold Item.meaning
      rw [failure?_map, ParticleTag.failure?_value]
  | aggregate reduced =>
      unfold Item.meaning
      rw [failure?_map, Aggregate.failure?_meaning nonempty]

theorem failure?_expansion (items : List Item) (repetition : Body α × Nat) :
    failure? (expansion snapshot items repetition) =
      items.findSome? fun item =>
        failure? (item.meaning snapshot repetition.1 repetition.2) := by
  unfold expansion
  rw [failure?_bind_pure, failure?_mapM]

theorem failure?_expansion_of_not_any {items : List Item}
    (nonempty : snapshot.bodies ≠ []) (ignores : items.any isOrbital = false)
    (repetition : Body α × Nat) :
    failure? (expansion snapshot items repetition) = none := by
  rw [failure?_expansion, List.findSome?_eq_none_iff]
  intro item member
  have ignored := List.any_eq_false.mp ignores item member
  rw [failure?_meaning nonempty]
  cases item <;> simp_all [isOrbital]

/-- A particle that is as much at fault as the whole snapshot is. -/
theorem failure?_expansion_of_agrees {items : List Item} {repetition : Body α × Nat}
    (nonempty : snapshot.bodies ≠ [])
    (agrees : Body.fault? repetition = snapshot.fault?) (reads : items.any isOrbital = true) :
    failure? (expansion snapshot items repetition) = snapshot.fault? := by
  have uniform (item : Item) :
      failure? (item.meaning snapshot repetition.1 repetition.2) =
        if item.isOrbital then snapshot.fault? else none := by
    rw [failure?_meaning nonempty, ← agrees]
    cases item with
    | literal text => rfl
    | simulation tag => rfl
    | particle tag => rfl
    | aggregate reduced => rfl
  rw [failure?_expansion]
  simp only [uniform]
  rw [findSome?_ite, if_pos reads]

/-- What fails for a particle that is not at fault is a reduction. -/
theorem fault?_of_expansion {items : List Item} {repetition : Body α × Nat}
    {error : EvaluationError} (nonempty : snapshot.bodies ≠ [])
    (sound : Body.fault? repetition = none)
    (fails : failure? (expansion snapshot items repetition) = some error) :
    snapshot.fault? = some error := by
  rw [failure?_expansion] at fails
  obtain ⟨item, -, itemFails⟩ := List.exists_of_findSome?_eq_some fails
  rw [failure?_meaning nonempty] at itemFails
  cases item with
  | literal text => exact absurd itemFails (by simp)
  | simulation tag => exact absurd itemFails (by simp)
  | particle tag => exact absurd itemFails (by simp [sound])
  | aggregate reduced => exact (Option.ite_none_right_eq_some.mp itemFails).2

end Item

/-! ## Groups -/

namespace Group

/-- An elided separator does not change what goes wrong. -/
theorem failure?_repetitions (snapshot : Snapshot α) (group : Group)
    (bodies : List (Body α × Nat)) :
    failure? (group.repetitions snapshot bodies) =
      bodies.findSome? fun repetition =>
        failure? (Item.expansion snapshot group.items repetition) := by
  cases trailing : group.trailingSeparator? with
  | none => rw [repetitions_of_none trailing, failure?_map, failure?_mapM]
  | some separator =>
      rw [repetitions_of_some trailing, failure?_map, failure?_mapM]
      simp only [expansion_of_some trailing, failure?_map]

theorem failure?_meaning (nonempty : snapshot.bodies ≠ []) (group : Group) :
    failure? (group.meaning snapshot) =
      if (group.items.filterMap Item.particleTag?).any ParticleTag.isOrbital then
        snapshot.fault?
      else none := by
  unfold meaning
  rw [failure?_repetitions, Item.any_particleTag?]
  cases reads : group.items.any Item.isOrbital with
  | false =>
      refine List.findSome?_eq_none_iff.mpr fun repetition _ => ?_
      exact Item.failure?_expansion_of_not_any nonempty reads repetition
  | true =>
      rw [if_pos rfl]
      cases faultEq : snapshot.fault? with
      | none =>
          -- No particle is at fault, so each of them agrees with the snapshot.
          have sound := List.findSome?_eq_none_iff.mp faultEq
          refine List.findSome?_eq_none_iff.mpr fun repetition member => ?_
          have agrees := (sound repetition member).trans faultEq.symm
          rw [Item.failure?_expansion_of_agrees nonempty agrees reads, faultEq]
      | some error =>
          obtain ⟨before, first, after, bodiesEq, faulty, sound⟩ :=
            List.findSome?_eq_some_iff.mp faultEq
          have agrees := faulty.trans faultEq.symm
          have firstFails := Item.failure?_expansion_of_agrees nonempty agrees reads
          -- A reduction may fail before the particle at fault is reached, but with
          -- the error of that particle.
          have upToFirst : ((before ++ [first]).findSome? fun repetition =>
              failure? (Item.expansion snapshot group.items repetition)) = some error := by
            refine findSome?_eq_some_of_unique ?_ ⟨first, by simp, firstFails.trans faultEq⟩
            intro repetition member found fails
            rcases List.mem_append.mp member with earlier | last
            · have foundEq := Item.fault?_of_expansion nonempty (sound repetition earlier) fails
              exact Option.some.inj (foundEq.symm.trans faultEq)
            · rw [List.mem_singleton.mp last, firstFails, faultEq] at fails
              exact (Option.some.inj fails).symm
          rw [bodiesEq, List.append_cons, List.findSome?_append, upToFirst]
          rfl

end Group

/-! ## Whole templates -/

namespace Node

theorem failure?_meaning_of_empty (empty : snapshot.bodies = []) (node : Node) :
    failure? (node.meaning snapshot) =
      match node with
      | .aggregate reduced => some (.emptyAggregate reduced.tag)
      | _ => none := by
  cases node with
  | literal text => rfl
  | simulation tag => rfl
  | aggregate reduced =>
      rw [Node.meaning, failure?_map, Aggregate.meaning, if_pos empty]
      rfl
  | group block =>
      rw [Node.meaning, Group.meaning, empty, List.zipIdx_nil, Group.repetitions_nil]
      rfl

theorem failure?_meaning_eq_some_iff (empty : snapshot.bodies = []) {node : Node}
    {error : EvaluationError} :
    failure? (node.meaning snapshot) = some error ↔
      ∃ reduced, node = .aggregate reduced ∧ error = .emptyAggregate reduced.tag := by
  rw [failure?_meaning_of_empty empty]
  cases node <;> simp [eq_comm]

theorem failure?_meaning_eq_none_iff (empty : snapshot.bodies = []) {node : Node} :
    failure? (node.meaning snapshot) = none ↔ ∀ reduced, node ≠ .aggregate reduced := by
  rw [failure?_meaning_of_empty empty]
  cases node <;> simp

theorem failure?_meaning (nonempty : snapshot.bodies ≠ []) (node : Node) :
    failure? (node.meaning snapshot) =
      if node.particleTags.any ParticleTag.isOrbital then snapshot.fault? else none := by
  cases node with
  | literal text => rfl
  | simulation tag => rfl
  | aggregate reduced =>
      rw [Node.meaning, failure?_map, Aggregate.failure?_meaning nonempty]
      simp [particleTags]
  | group block => exact block.failure?_meaning nonempty

end Node

namespace Template

theorem failure?_evaluate (template : Template) (snapshot : Snapshot α) :
    failure? (template.evaluate snapshot) =
      template.nodes.findSome? fun node => failure? (node.meaning snapshot) := by
  unfold evaluate evaluateMetered
  rw [Node.outcome_foldlM_write, failure?_map, failure?_mapM]

/-- Without particles, the first reduction that stands outside the groups is the
one that fails. -/
theorem failure?_evaluate_of_empty (empty : snapshot.bodies = []) (template : Template)
    (error : EvaluationError) :
    failure? (template.evaluate snapshot) = some error ↔
      ∃ before reduced after, template.nodes = before ++ .aggregate reduced :: after ∧
        (∀ other, .aggregate other ∉ before) ∧ error = .emptyAggregate reduced.tag := by
  rw [failure?_evaluate, List.findSome?_eq_some_iff]
  simp only [Node.failure?_meaning_eq_some_iff empty, Node.failure?_meaning_eq_none_iff empty]
  constructor
  · rintro ⟨before, _, after, nodesEq, ⟨reduced, rfl, errorEq⟩, passed⟩
    exact ⟨before, reduced, after, nodesEq, fun other member => passed _ member other rfl,
      errorEq⟩
  · rintro ⟨before, reduced, after, nodesEq, passed, errorEq⟩
    refine ⟨before, _, after, nodesEq, ⟨reduced, rfl, errorEq⟩, ?_⟩
    rintro _ member other rfl
    exact passed other member

theorem exists_failure?_evaluate_of_empty (empty : snapshot.bodies = [])
    (template : Template) :
    (∃ error, failure? (template.evaluate snapshot) = some error) ↔
      ∃ reduced, .aggregate reduced ∈ template.nodes := by
  rw [← Option.isSome_iff_exists, failure?_evaluate, List.findSome?_isSome_iff]
  simp only [Option.isSome_iff_exists, Node.failure?_meaning_eq_some_iff empty]
  constructor
  · rintro ⟨_, member, error, reduced, rfl, errorEq⟩
    exact ⟨reduced, member⟩
  · rintro ⟨reduced, member⟩
    exact ⟨_, member, _, reduced, rfl, rfl⟩

/-- With particles, the order of nodes and items does not matter. -/
theorem failure?_evaluate_of_nonempty (nonempty : snapshot.bodies ≠ []) (template : Template)
    (error : EvaluationError) :
    failure? (template.evaluate snapshot) = some error ↔
      (∃ tag ∈ template.particleTags, tag.isOrbital = true) ∧ snapshot.fault? = some error := by
  rw [failure?_evaluate]
  simp only [Node.failure?_meaning nonempty]
  rw [findSome?_ite, ← List.any_flatMap, ← particleTags, Option.ite_none_right_eq_some,
    List.any_eq_true]

/-- The first particle without an orbit ends every line that reads orbits. -/
theorem evaluate_of_firstDegenerate {template : Template} {index : Nat} {cause : OrbitError}
    (readsOrbits : ∃ tag ∈ template.particleTags, tag.isOrbital = true)
    (isFirst : snapshot.FirstDegenerate index cause) :
    template.evaluate snapshot = .error (.degenerateOrbit index cause) := by
  have nonempty : snapshot.bodies ≠ [] := by
    intro empty
    have degenerate := isFirst.degenerate
    rw [Snapshot.orbitAt?, empty] at degenerate
    exact absurd degenerate (by simp)
  rw [← failure?_eq_some_iff, failure?_evaluate_of_nonempty nonempty]
  exact ⟨readsOrbits, Snapshot.fault?_eq_some_iff.mpr ⟨index, cause, isFirst, rfl⟩⟩

/-- Rendering fails for the first reduction outside a group if there are no
particles, and otherwise for the first particle without an orbit, provided that
the template mentions a tag that reads orbits. -/
theorem evaluate_eq_error_iff (template : Template) (snapshot : Snapshot α) :
    (∀ error, template.evaluate snapshot = .error error ↔
      (snapshot.particleCount = 0 ∧
        ∃ before reduced after, template.nodes = before ++ .aggregate reduced :: after ∧
          (∀ other, .aggregate other ∉ before) ∧ error = .emptyAggregate reduced.tag) ∨
      (0 < snapshot.particleCount ∧ (∃ tag ∈ template.particleTags, tag.isOrbital = true) ∧
        ∃ index cause, snapshot.FirstDegenerate index cause ∧
          error = .degenerateOrbit index cause)) ∧
    ((∃ error, template.evaluate snapshot = .error error) ↔
      (snapshot.particleCount = 0 ∧ ∃ reduced, .aggregate reduced ∈ template.nodes) ∨
      (0 < snapshot.particleCount ∧ (∃ tag ∈ template.particleTags, tag.isOrbital = true) ∧
        ∃ index < snapshot.particleCount, ∃ cause,
          snapshot.orbitAt? index = some (.error cause))) := by
  simp only [← failure?_eq_some_iff]
  by_cases empty : snapshot.bodies = []
  · have count : snapshot.particleCount = 0 := List.length_eq_zero_iff.mpr empty
    rw [exists_failure?_evaluate_of_empty empty]
    simp only [failure?_evaluate_of_empty empty, count, Nat.lt_irrefl, true_and, false_and,
      or_false, implies_true]
  · have count : 0 < snapshot.particleCount := List.length_pos_iff.mpr empty
    have countNe : snapshot.particleCount ≠ 0 := Nat.ne_of_gt count
    constructor
    · intro error
      rw [failure?_evaluate_of_nonempty empty, Snapshot.fault?_eq_some_iff]
      simp only [count, countNe, true_and, false_and, false_or]
    · simp only [failure?_evaluate_of_nonempty empty, exists_and_left,
        Snapshot.exists_fault?_iff, count, countNe, true_and, false_and, false_or]

end Template

end Telemetry
