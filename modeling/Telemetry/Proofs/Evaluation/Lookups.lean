import Telemetry.Proofs.Simulation.Primary

/-!
# How many orbits a line looks up

Every tag that reads orbits costs one lookup for each particle, wherever it stands.  Inside
a group a tag of one particle is taken once for each repetition, while a reduction takes all
of its lookups when it is first met and none after that.

The count is amortised.  A computation has a budget of lookups, and says what its result
leaves of it; the slots of a group tell by the texts they keep which lookups are still due.
-/

namespace Telemetry

variable {α : Type}

namespace Metered

variable {Input Output : Type}

theorem orbitLookups_bind_of_ok {first : Metered Input} {value : Input}
    (succeeds : first.outcome = .ok value) (next : Input → Metered Output) :
    (first >>= next).orbitLookups = first.orbitLookups + (next value).orbitLookups := by
  show (Metered.bind first next).orbitLookups = _
  unfold Metered.bind
  rw [succeeds]

theorem orbitLookups_bind_of_error {first : Metered Input} {error : EvaluationError}
    (fails : first.outcome = .error error) (next : Input → Metered Output) :
    (first >>= next).orbitLookups = first.orbitLookups := by
  show (Metered.bind first next).orbitLookups = _
  unfold Metered.bind
  rw [fails]

/-- A computation does with a budget of lookups.  What a success has not looked up is left
for what comes next, and a failure has stayed within the budget. -/
structure Spends (computation : Metered Output) (budget : Nat) (left : Output → Nat) :
    Prop where
  ofOk : ∀ value, computation.outcome = .ok value →
    computation.orbitLookups + left value = budget
  ofError : ∀ error, computation.outcome = .error error → computation.orbitLookups ≤ budget

namespace Spends

theorem pure {value : Output} {budget : Nat} {left : Output → Nat}
    (leaves : left value = budget) : (Pure.pure value : Metered Output).Spends budget left := by
  constructor
  · intro result succeeds
    obtain rfl : value = result := Except.ok.inj succeeds
    rw [orbitLookups_pure, Nat.zero_add, leaves]
  · intro error fails
    exact absurd fails (by simp)

theorem fail (error : EvaluationError) (budget : Nat) (left : Output → Nat) :
    (Metered.fail error : Metered Output).Spends budget left := by
  constructor
  · intro value succeeds
    exact absurd succeeds (by simp [Metered.fail])
  · intro _ _
    exact Nat.zero_le budget

/-- The second computation has what the first one leaves. -/
theorem bind {first : Metered Input} {next : Input → Metered Output} {budget : Nat}
    {between : Input → Nat} {left : Output → Nat} (spends : first.Spends budget between)
    (continues : ∀ value, (next value).Spends (between value) left) :
    (first >>= next).Spends budget left := by
  constructor
  · intro result succeeds
    rw [outcome_bind] at succeeds
    cases firstEq : first.outcome with
    | error error => exact absurd succeeds (by simp [firstEq, Except.bind])
    | ok value =>
        rw [firstEq] at succeeds
        have spentFirst := spends.ofOk value firstEq
        have spentNext := (continues value).ofOk result succeeds
        rw [orbitLookups_bind_of_ok firstEq]
        omega
  · intro error fails
    rw [outcome_bind] at fails
    cases firstEq : first.outcome with
    | error cause =>
        rw [orbitLookups_bind_of_error firstEq]
        exact spends.ofError cause firstEq
    | ok value =>
        rw [firstEq] at fails
        have spentFirst := spends.ofOk value firstEq
        have spentNext := (continues value).ofError error fails
        rw [orbitLookups_bind_of_ok firstEq]
        omega

/-- What is not needed can be set aside. -/
theorem setAside {computation : Metered Output} {budget : Nat} {left : Output → Nat}
    (spends : computation.Spends budget left) (reserve : Nat) :
    computation.Spends (budget + reserve) (fun value => left value + reserve) := by
  constructor
  · intro value succeeds
    have spent := spends.ofOk value succeeds
    omega
  · intro error fails
    have spent := spends.ofError error fails
    omega

/-- Steps of one price are taken one after the other. -/
theorem mapM {step : Input → Metered Output} {price : Nat}
    (spends : ∀ input, (step input).Spends price fun _ => 0) (inputs : List Input) :
    (inputs.mapM step).Spends (inputs.length * price) fun _ => 0 := by
  induction inputs with
  | nil =>
      rw [List.mapM_nil, List.length_nil, Nat.zero_mul]
      exact pure rfl
  | cons input inputs ih =>
      rw [List.mapM_cons, List.length_cons, Nat.add_one_mul, Nat.add_comm]
      have first := (spends input).setAside (inputs.length * price)
      refine first.bind fun output => ?_
      rw [Nat.zero_add]
      exact ih.bind fun outputs => pure rfl

end Spends

end Metered

/-! ## One value -/

theorem Body.lookUpOrbit_spends (body : Body α) (index : Nat) :
    (body.lookUpOrbit index).Spends 1 fun _ => 0 := by
  constructor
  · intro _ _
    rfl
  · intro _ _
    exact Nat.le_refl 1

/-- The lookups that one value of a tag takes. -/
def ParticleTag.lookups (tag : ParticleTag) : Nat :=
  if tag.isOrbital then 1 else 0

variable [Scalar α]

/-- The tags marked as orbital are those that look the orbit up, and they do so once. -/
theorem ParticleTag.value_spends (tag : ParticleTag) (body : Body α) (index : Nat) :
    (tag.value body index).Spends tag.lookups fun _ => 0 := by
  have lookedUp (read : Orbit α → Value α) :
      (body.lookUpOrbit index >>= fun orbit => pure (read orbit)).Spends 1 fun _ => 0 :=
    (body.lookUpOrbit_spends index).bind fun orbit => .pure rfl
  have given (value : Value α) : (pure value : Metered (Value α)).Spends 0 fun _ => 0 :=
    .pure rfl
  cases tag with
  | mass | radius | name | identifier | positionX | positionY | positionZ | velocityX
  | velocityY | velocityZ | accelerationX | accelerationY | accelerationZ | distance =>
      exact given _
  | _ => exact lookedUp _

/-- A reduction looks up an orbit for every particle, or none. -/
theorem Aggregate.value_spends (snapshot : Snapshot α) (reduced : Aggregate) :
    (reduced.value snapshot).Spends (snapshot.particleCount * reduced.tag.lookups) fun _ => 0 := by
  unfold Aggregate.value
  split
  · exact .fail _ _ _
  · have sampled := Metered.Spends.mapM
      (fun indexed : Body α × Nat => reduced.tag.value_spends indexed.1 indexed.2)
      snapshot.bodies.zipIdx
    rw [List.length_zipIdx] at sampled
    exact sampled.bind fun sample => .pure rfl

/-! ## Groups -/

theorem Item.countP_particleTag? (items : List Item) :
    (items.filterMap particleTag?).countP ParticleTag.isOrbital = items.countP isOrbital := by
  rw [List.countP_filterMap]
  congr 1
  funext item
  cases item <;> rfl

namespace Slot

/-- The lookups that a slot still takes when so many repetitions are left.  A reduction
takes them all at once, unless its text is kept already. -/
def lookupsDue (particleCount repetitionsLeft : Nat) (slot : Slot) : Nat :=
  match slot.item, slot.kept? with
  | .particle tag, _ => repetitionsLeft * tag.lookups
  | .aggregate reduced, none =>
      if repetitionsLeft = 0 then 0 else particleCount * reduced.tag.lookups
  | _, _ => 0

theorem lookupsDue_zero (particleCount : Nat) (slot : Slot) :
    slot.lookupsDue particleCount 0 = 0 := by
  obtain ⟨item, kept?⟩ := slot
  cases item with
  | literal text => rfl
  | simulation tag => rfl
  | particle tag => exact Nat.zero_mul _
  | aggregate reduced => cases kept? <;> rfl

/-- At first, a slot takes as many lookups as there are particles if its item reads orbits. -/
theorem lookupsDue_unwritten (particleCount : Nat) (item : Item) :
    lookupsDue particleCount particleCount ⟨item, none⟩ =
      particleCount * if item.isOrbital then 1 else 0 := by
  cases item with
  | literal text => rfl
  | simulation tag => rfl
  | particle tag => rfl
  | aggregate reduced =>
      by_cases empty : particleCount = 0
      · simp [lookupsDue, empty]
      · exact if_neg empty

theorem write_spends (snapshot : Snapshot α) (body : Body α) (index : Nat) (slot : Slot)
    (line : String) (repetitionsLeft : Nat) :
    (slot.write snapshot body index line).Spends
      (slot.lookupsDue snapshot.particleCount (repetitionsLeft + 1))
      fun written => written.2.lookupsDue snapshot.particleCount repetitionsLeft := by
  obtain ⟨item, kept?⟩ := slot
  cases item with
  | literal text => exact .pure rfl
  | simulation tag => exact .pure rfl
  | particle tag =>
      have due : lookupsDue snapshot.particleCount (repetitionsLeft + 1)
          ⟨.particle tag, kept?⟩ = tag.lookups + repetitionsLeft * tag.lookups := by
        show (repetitionsLeft + 1) * tag.lookups = _
        rw [Nat.add_one_mul, Nat.add_comm]
      rw [due]
      refine ((tag.value_spends body index).setAside _).bind fun value => ?_
      exact .pure (Nat.zero_add _).symm
  | aggregate reduced =>
      cases kept? with
      | some text => exact .pure rfl
      | none => exact (reduced.value_spends snapshot).bind fun value => .pure rfl

def allLookupsDue (particleCount repetitionsLeft : Nat) (slots : List Slot) : Nat :=
  (slots.map (lookupsDue particleCount repetitionsLeft)).sum

theorem allLookupsDue_zero (particleCount : Nat) (slots : List Slot) :
    allLookupsDue particleCount 0 slots = 0 := by
  unfold allLookupsDue
  induction slots with
  | nil => rfl
  | cons slot slots ih => rw [List.map_cons, List.sum_cons, ih, lookupsDue_zero]

theorem allLookupsDue_unwritten (particleCount : Nat) (items : List Item) :
    allLookupsDue particleCount particleCount (items.map (⟨·, none⟩)) =
      particleCount * items.countP Item.isOrbital := by
  unfold allLookupsDue
  induction items with
  | nil => rfl
  | cons item items ih =>
      rw [List.map_cons, List.map_cons, List.sum_cons, ih, lookupsDue_unwritten,
        List.countP_cons, Nat.mul_add, Nat.add_comm]

/-- One repetition leaves what the later ones take. -/
theorem writeAll_spends (snapshot : Snapshot α) (body : Body α) (index : Nat)
    (slots : List Slot) (line : String) (repetitionsLeft : Nat) :
    (writeAll snapshot body index slots line).Spends
      (allLookupsDue snapshot.particleCount (repetitionsLeft + 1) slots)
      fun written => allLookupsDue snapshot.particleCount repetitionsLeft written.2 := by
  induction slots generalizing line with
  | nil => exact .pure rfl
  | cons slot slots ih =>
      have first := slot.write_spends snapshot body index line repetitionsLeft
      refine (first.setAside _).bind fun written => ?_
      have others := (ih written.1).setAside
        (written.2.lookupsDue snapshot.particleCount repetitionsLeft)
      rw [Nat.add_comm]
      exact others.bind fun othersWritten => .pure (Nat.add_comm _ _)

end Slot

namespace Group

theorem writeRepetitions_spends (snapshot : Snapshot α) (group : Group)
    (bodies : List (Body α × Nat)) (slots : List Slot) (line : String) :
    (group.writeRepetitions snapshot bodies slots line).Spends
      (Slot.allLookupsDue snapshot.particleCount bodies.length slots) fun _ => 0 := by
  induction bodies generalizing slots line with
  | nil =>
      rw [List.length_nil, Slot.allLookupsDue_zero]
      exact .pure rfl
  | cons repetition bodies ih =>
      have first := Slot.writeAll_spends snapshot repetition.1 repetition.2 slots line
        bodies.length
      exact first.bind fun written => ih written.2 _

theorem write_spends (snapshot : Snapshot α) (group : Group) (line : String) :
    (group.write snapshot line).Spends
      (snapshot.particleCount *
        (group.items.filterMap Item.particleTag?).countP ParticleTag.isOrbital)
      fun _ => 0 := by
  have written := group.writeRepetitions_spends snapshot snapshot.bodies.zipIdx
    (group.items.map (⟨·, none⟩)) line
  rw [List.length_zipIdx] at written
  rw [Item.countP_particleTag?, ← Slot.allLookupsDue_unwritten]
  exact written

end Group

/-! ## Whole templates -/

namespace Node

theorem write_spends (snapshot : Snapshot α) (node : Node) (line : String) :
    (node.write snapshot line).Spends
      (snapshot.particleCount * node.particleTags.countP ParticleTag.isOrbital)
      fun _ => 0 := by
  cases node with
  | literal text => exact .pure rfl
  | simulation tag => exact .pure rfl
  | aggregate reduced =>
      have spends := reduced.value_spends snapshot
      rw [particleTags, List.countP_singleton]
      exact spends.bind fun value => .pure rfl
  | group block => exact block.write_spends snapshot line

theorem foldlM_write_spends (snapshot : Snapshot α) (nodes : List Node) (line : String) :
    (nodes.foldlM (fun line node => Node.write snapshot node line) line).Spends
      (snapshot.particleCount * (nodes.flatMap particleTags).countP ParticleTag.isOrbital)
      fun _ => 0 := by
  induction nodes generalizing line with
  | nil => exact .pure rfl
  | cons node nodes ih =>
      rw [List.foldlM_cons, List.flatMap_cons, List.countP_append, Nat.mul_add]
      have first := (node.write_spends snapshot line).setAside
        (snapshot.particleCount * (nodes.flatMap particleTags).countP ParticleTag.isOrbital)
      refine first.bind fun longer => ?_
      rw [Nat.zero_add]
      exact ih longer

end Node

namespace Template

theorem evaluateMetered_spends (template : Template) (snapshot : Snapshot α) :
    (template.evaluateMetered snapshot).Spends
      (snapshot.particleCount * template.particleTags.countP ParticleTag.isOrbital)
      fun _ => 0 :=
  Node.foldlM_write_spends snapshot template.nodes ""

/-- A line costs one lookup for every particle and every place in the template where a tag
reads orbits, however often that place is met.  A line that fails costs no more. -/
theorem orbitLookups_of_evaluate (template : Template) (snapshot : Snapshot α) :
    (∀ line, template.evaluate snapshot = .ok line →
      template.orbitLookups snapshot =
        snapshot.particleCount * template.particleTags.countP ParticleTag.isOrbital) ∧
    ∀ error, template.evaluate snapshot = .error error →
      template.orbitLookups snapshot ≤
        snapshot.particleCount * template.particleTags.countP ParticleTag.isOrbital := by
  have spends := template.evaluateMetered_spends snapshot
  constructor
  · intro line evaluated
    exact spends.ofOk line evaluated
  · intro error failed
    exact spends.ofError error failed

/-- Distances from the reference body, each beside the mean eccentricity. -/
def distancesAndEccentricity : Template :=
  ⟨[.group ⟨[.particle .referenceDistance, .literal "/",
    .aggregate ⟨.average, .eccentricity, rfl⟩, .literal ","], true⟩]⟩

/-- Both particles have an orbit around the barycenter, so that four lookups are made.
Around the planet only the star has one: the mean fails in the first repetition, when three
lookups have been made. -/
theorem orbitLookups_of_evaluate_of_pair :
    letI := Scalar.exact .onWholeNumbers
    distancesAndEccentricity.particleTags.countP ParticleTag.isOrbital = 2 ∧
      distancesAndEccentricity.evaluate Simulation.starAndPlanet.snapshot = .ok "1/1,3/1" ∧
      distancesAndEccentricity.orbitLookups Simulation.starAndPlanet.snapshot = 2 * 2 ∧
      distancesAndEccentricity.evaluate Simulation.aroundPlanet.snapshot =
        .error (.degenerateOrbit 1 .coincident) ∧
      distancesAndEccentricity.orbitLookups Simulation.aroundPlanet.snapshot = 3 ∧
      distancesAndEccentricity.orbitLookups Simulation.aroundPlanet.snapshot ≤ 2 * 2 := by
  let := Scalar.exact .onWholeNumbers
  have evaluated : distancesAndEccentricity.evaluate Simulation.starAndPlanet.snapshot =
      .ok "1/1,3/1" := by
    decide +kernel
  have failed : distancesAndEccentricity.evaluate Simulation.aroundPlanet.snapshot =
      .error (.degenerateOrbit 1 .coincident) := by
    decide +kernel
  obtain ⟨exactly, -⟩ := distancesAndEccentricity.orbitLookups_of_evaluate
    Simulation.starAndPlanet.snapshot
  obtain ⟨-, atMost⟩ := distancesAndEccentricity.orbitLookups_of_evaluate
    Simulation.aroundPlanet.snapshot
  exact ⟨rfl, evaluated, exactly _ evaluated, failed, by decide +kernel,
    atMost _ failed⟩

end Template

end Telemetry
