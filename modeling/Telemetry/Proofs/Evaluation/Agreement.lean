import Telemetry.Proofs.Evaluation.Failure

/-!
# What a line depends on

The line of a template depends on a snapshot only through the quantities of the
simulation, the number of particles, and the values of the tags that the template
mentions.  Snapshots that agree on these have the same line, or the same fault.
-/

namespace Telemetry

variable {α : Type} [Scalar α]

/-- Bodies for which some tags stand for the same values. -/
def Body.Agrees (tags : List ParticleTag) (first second : Body α) : Prop :=
  ∀ tag ∈ tags, ∀ index, (tag.value first index).outcome = (tag.value second index).outcome

/-- Snapshots with the same quantities of the simulation, and with particles that agree on
some tags one by one. -/
structure Snapshot.Agrees (tags : List ParticleTag) (first second : Snapshot α) : Prop where
  simulation : ∀ tag : SimulationTag, tag.value first = tag.value second
  bodies : List.Forall₂ (Body.Agrees tags) first.bodies second.bodies

variable {tags : List ParticleTag} {first second : Snapshot α}

theorem Aggregate.meaning_eq_of_agrees (agrees : first.Agrees tags second)
    {reduced : Aggregate} (mentioned : reduced.tag ∈ tags) :
    reduced.meaning first = reduced.meaning second := by
  have emptyIff : first.bodies = [] ↔ second.bodies = [] := by
    rw [← List.length_eq_zero_iff, ← List.length_eq_zero_iff, agrees.bodies.length_eq]
  have sameValues :
      (first.bodies.zipIdx.mapM fun indexed =>
        (reduced.tag.value indexed.1 indexed.2).outcome) =
      second.bodies.zipIdx.mapM fun indexed =>
        (reduced.tag.value indexed.1 indexed.2).outcome := by
    refine mapM_eq_mapM_of_forall₂ ((forall₂_zipIdx agrees.bodies 0).imp ?_)
    rintro ⟨body, index⟩ ⟨other, _⟩ ⟨bodiesAgree, rfl⟩
    exact bodiesAgree reduced.tag mentioned index
  simp only [Aggregate.meaning, emptyIff, sameValues]

namespace Item

theorem meaning_eq_of_agrees (agrees : first.Agrees tags second) {body other : Body α}
    (bodiesAgree : body.Agrees tags other) (index : Nat) {item : Item}
    (mentioned : ∀ tag ∈ item.particleTag?, tag ∈ tags) :
    item.meaning first body index = item.meaning second other index := by
  cases item with
  | literal text => rfl
  | simulation tag => exact congrArg (Except.ok ∘ Value.toText) (agrees.simulation tag)
  | particle tag =>
      exact congrArg (Except.map Value.toText) (bodiesAgree tag (mentioned tag rfl) index)
  | aggregate reduced =>
      exact congrArg (Except.map Value.toText)
        (Aggregate.meaning_eq_of_agrees agrees (mentioned reduced.tag rfl))

theorem expansion_eq_of_agrees (agrees : first.Agrees tags second)
    {repetition other : Body α × Nat} (bodiesAgree : repetition.1.Agrees tags other.1)
    (sameIndex : repetition.2 = other.2) {items : List Item}
    (mentioned : ∀ tag ∈ items.filterMap particleTag?, tag ∈ tags) :
    expansion first items repetition = expansion second items other := by
  have sameTexts : items.mapM (meaning first repetition.1 repetition.2) =
      items.mapM (meaning second other.1 other.2) := by
    refine mapM_eq_mapM_of_forall₂ (List.forall₂_same.mpr fun item member => ?_)
    rw [sameIndex]
    refine meaning_eq_of_agrees agrees bodiesAgree other.2 fun tag isTag => ?_
    exact mentioned tag (List.mem_filterMap.mpr ⟨item, member, isTag⟩)
  rw [expansion, sameTexts, expansion]

end Item

theorem Group.meaning_eq_of_agrees (agrees : first.Agrees tags second) {group : Group}
    (mentioned : ∀ tag ∈ group.items.filterMap Item.particleTag?, tag ∈ tags) :
    group.meaning first = group.meaning second := by
  -- What is repeated is all items, or all but the separator that is elided.
  have sameExpansions {items : List Item} (isPart : items.Sublist group.items) :
      first.bodies.zipIdx.mapM (Item.expansion first items) =
        second.bodies.zipIdx.mapM (Item.expansion second items) := by
    refine mapM_eq_mapM_of_forall₂ ((forall₂_zipIdx agrees.bodies 0).imp ?_)
    rintro repetition other ⟨bodiesAgree, sameIndex⟩
    refine Item.expansion_eq_of_agrees agrees bodiesAgree sameIndex fun tag isMember => ?_
    exact mentioned tag ((isPart.filterMap Item.particleTag?).subset isMember)
  unfold Group.meaning
  cases trailing : group.trailingSeparator? with
  | none =>
      rw [repetitions_of_none trailing, repetitions_of_none trailing,
        sameExpansions (List.Sublist.refl _)]
  | some separator =>
      rw [repetitions_of_some trailing, repetitions_of_some trailing,
        sameExpansions (List.dropLast_sublist _)]

theorem Node.meaning_eq_of_agrees (agrees : first.Agrees tags second) {node : Node}
    (mentioned : ∀ tag ∈ node.particleTags, tag ∈ tags) :
    node.meaning first = node.meaning second := by
  cases node with
  | literal text => rfl
  | simulation tag => exact congrArg (Except.ok ∘ Value.toText) (agrees.simulation tag)
  | aggregate reduced =>
      exact congrArg (Except.map Value.toText)
        (Aggregate.meaning_eq_of_agrees agrees (mentioned reduced.tag List.mem_cons_self))
  | group block => exact Group.meaning_eq_of_agrees agrees mentioned

/-- A line depends on nothing but the tags of its template. -/
theorem Template.evaluate_eq_of_agrees {template : Template}
    (agrees : first.Agrees template.particleTags second) :
    template.evaluate first = template.evaluate second := by
  have sameTexts : template.nodes.mapM (Node.meaning first) =
      template.nodes.mapM (Node.meaning second) := by
    refine mapM_eq_mapM_of_forall₂ (List.forall₂_same.mpr fun node member => ?_)
    exact Node.meaning_eq_of_agrees agrees fun tag isMember =>
      List.mem_flatMap.mpr ⟨node, member, isMember⟩
  rw [evaluate, evaluate, outcome_evaluateMetered, outcome_evaluateMetered, meaning, meaning,
    sameTexts]

end Telemetry
