import Telemetry.Proofs.Simulation.Validity
import Telemetry.Scalar.Binary64

/-!
# Repeated identifiers

Checking a simulation goes through the particles in their order and stops at the first one
whose identifier has been seen before.  The primary is only looked for when there is no
such particle.  Once the check is passed, every particle is found under its identifier, at
its own position.
-/

namespace Telemetry

namespace Simulation

/-- The identifier at a position is in `seen` or among those before it in the list. -/
def RepeatsAt (seen ids : List ParticleId) (index : Nat) : Prop :=
  ∃ id, ids[index]? = some id ∧ (id ∈ seen ∨ id ∈ ids.take index)

theorem repeatsAt_zero_iff {seen rest : List ParticleId} {id : ParticleId} :
    RepeatsAt seen (id :: rest) 0 ↔ id ∈ seen := by
  simp [RepeatsAt]

/-- Going past an identifier is the same as having seen it from the start. -/
theorem repeatsAt_succ_iff {seen rest : List ParticleId} {id : ParticleId} {index : Nat} :
    RepeatsAt seen (id :: rest) (index + 1) ↔ RepeatsAt (id :: seen) rest index := by
  simp only [RepeatsAt, List.getElem?_cons_succ, List.take_succ_cons, List.mem_cons]
  refine exists_congr fun other => and_congr_right fun _ => ?_
  rw [or_left_comm, or_assoc]

theorem firstRepeated?_eq_some_iff {seen ids : List ParticleId} {id : ParticleId} :
    firstRepeated? seen ids = some id ↔
      ∃ index, ids[index]? = some id ∧ RepeatsAt seen ids index ∧
        ∀ earlier < index, ¬ RepeatsAt seen ids earlier := by
  induction ids generalizing seen with
  | nil => simp [firstRepeated?]
  | cons first rest ih =>
      rw [firstRepeated?]
      split
      · rename_i isSeen
        have repeatsFirst : RepeatsAt seen (first :: rest) 0 := repeatsAt_zero_iff.mpr isSeen
        constructor
        · intro found
          exact ⟨0, found, repeatsFirst, by simp⟩
        · rintro ⟨index, idAt, -, least⟩
          cases index with
          | zero => exact idAt
          | succ index => exact absurd repeatsFirst (least 0 index.succ_pos)
      · rename_i isNew
        have notFirst : ¬ RepeatsAt seen (first :: rest) 0 := mt repeatsAt_zero_iff.mp isNew
        rw [ih]
        constructor
        · rintro ⟨index, idAt, repeats, least⟩
          refine ⟨index + 1, idAt, repeatsAt_succ_iff.mpr repeats, ?_⟩
          intro earlier isEarlier
          cases earlier with
          | zero => exact notFirst
          | succ earlier =>
              rw [repeatsAt_succ_iff]
              exact least earlier (by omega)
        · rintro ⟨index, idAt, repeats, least⟩
          cases index with
          | zero => exact absurd repeats notFirst
          | succ index =>
              refine ⟨index, idAt, repeatsAt_succ_iff.mp repeats, ?_⟩
              intro earlier isEarlier
              rw [← repeatsAt_succ_iff]
              exact least (earlier + 1) (by omega)

variable {α : Type} {simulation : Simulation α}

/-- The particle at a position is the first one whose identifier occurs before it. -/
structure FirstRepetition (simulation : Simulation α) (index : Nat) (particle : Particle α) :
    Prop where
  particleAt : simulation.particles[index]? = some particle
  repeated : particle.id ∈ simulation.ids.take index
  least : ∀ earlier < index, ∀ other, simulation.particles[earlier]? = some other →
    other.id ∉ simulation.ids.take earlier

theorem repeatsAt_ids_iff {index : Nat} :
    RepeatsAt [] simulation.ids index ↔
      ∃ particle, simulation.particles[index]? = some particle ∧
        particle.id ∈ simulation.ids.take index := by
  simp [RepeatsAt, ids]

theorem firstRepeated?_ids_eq_some_iff {id : ParticleId} :
    firstRepeated? [] simulation.ids = some id ↔
      ∃ index particle, simulation.FirstRepetition index particle ∧ particle.id = id := by
  rw [firstRepeated?_eq_some_iff]
  refine exists_congr fun index => ?_
  simp only [repeatsAt_ids_iff]
  constructor
  · rintro ⟨idAt, ⟨particle, particleAt, repeated⟩, least⟩
    refine ⟨particle, ⟨particleAt, repeated, ?_⟩, ?_⟩
    · intro earlier isEarlier other otherAt otherRepeats
      exact least earlier isEarlier ⟨other, otherAt, otherRepeats⟩
    · simpa [ids, particleAt] using idAt
  · rintro ⟨particle, isFirst, rfl⟩
    refine ⟨by simp [ids, isFirst.particleAt],
      ⟨particle, isFirst.particleAt, isFirst.repeated⟩, ?_⟩
    rintro earlier isEarlier ⟨other, otherAt, otherRepeats⟩
    exact isFirst.least earlier isEarlier other otherAt otherRepeats

theorem validate_of_firstRepetition {index : Nat} {particle : Particle α}
    (isFirst : simulation.FirstRepetition index particle) :
    simulation.validate = .error (.duplicateId particle.id) := by
  have found : firstRepeated? [] simulation.ids = some particle.id :=
    firstRepeated?_ids_eq_some_iff.mpr ⟨index, particle, isFirst, rfl⟩
  rw [ids] at found
  simp only [validate, found]

theorem exists_firstRepetition (repeats : ¬ simulation.ids.Nodup) :
    ∃ index particle, simulation.FirstRepetition index particle := by
  rw [← firstRepeated?_ids_eq_none_iff, ← ne_eq, Option.ne_none_iff_exists'] at repeats
  obtain ⟨id, found⟩ := repeats
  obtain ⟨index, particle, isFirst, -⟩ := firstRepeated?_ids_eq_some_iff.mp found
  exact ⟨index, particle, isFirst⟩

theorem validate_of_missing {id : ParticleId} (distinct : simulation.ids.Nodup)
    (isPrimary : simulation.primary? = some id) (missing : id ∉ simulation.ids) :
    simulation.validate = .error (.missingPrimary id) := by
  have noRepetition := firstRepeated?_ids_eq_none_iff.mpr distinct
  rw [ids] at noRepetition missing
  simp only [validate, noRepetition, isPrimary, if_neg missing]

/-! ## Lookups -/

theorem find?_eq_bind_indexOf? (id : ParticleId) :
    simulation.find? id =
      (simulation.indexOf? id).bind fun index => simulation.particles[index]? :=
  List.find?_eq_bind_findIdx?_getElem?

theorem indexOf?_of_nodup (distinct : simulation.ids.Nodup) {index : Nat}
    (inBounds : index < simulation.particles.length) :
    simulation.indexOf? simulation.particles[index].id = some index := by
  rw [indexOf?, List.findIdx?_eq_some_iff_getElem]
  refine ⟨inBounds, by simp, ?_⟩
  intro earlier isEarlier
  rw [decide_eq_true_eq]
  intro sameId
  have indexBound : index < simulation.ids.length := by simpa [ids] using inBounds
  have earlierBound : earlier < simulation.ids.length := by omega
  have sameAt : simulation.ids[earlier] = simulation.ids[index] := by simpa [ids] using sameId
  have sameIndex : earlier = index := distinct.getElem_inj_iff.mp sameAt
  omega

/-- The check is exact.  It is passed when identifiers are distinct and the primary, if
there is one, is among them.  Otherwise it names the first particle that repeats an
identifier, whatever the primary; only when there is none does it name a primary that is
missing.  Once it is passed, an identifier leads to its particle and to the position of it. -/
theorem validate_exact (simulation : Simulation α) :
    (simulation.validate = .ok () ↔
      simulation.ids.Nodup ∧
        (simulation.primary? = none ∨
          ∃ particle ∈ simulation.particles, simulation.primary? = some particle.id)) ∧
    (¬ simulation.ids.Nodup →
      ∃ index particle, simulation.FirstRepetition index particle ∧
        simulation.validate = .error (.duplicateId particle.id)) ∧
    (∀ id, simulation.ids.Nodup → simulation.primary? = some id → id ∉ simulation.ids →
      simulation.validate = .error (.missingPrimary id)) ∧
    (simulation.validate = .ok () →
      ∀ (index : Nat) (inBounds : index < simulation.particles.length),
        simulation.indexOf? simulation.particles[index].id = some index ∧
          simulation.find? simulation.particles[index].id = some simulation.particles[index]) := by
  refine ⟨?_, ?_, ?_, ?_⟩
  · rw [validate_eq_ok_iff]
    refine and_congr_right fun _ => ?_
    cases simulation.primary? with
    | none => simp
    | some id => simp [ids, eq_comm]
  · intro repeats
    obtain ⟨index, particle, isFirst⟩ := exists_firstRepetition repeats
    exact ⟨index, particle, isFirst, validate_of_firstRepetition isFirst⟩
  · intro id distinct isPrimary missing
    exact validate_of_missing distinct isPrimary missing
  · intro isValid index inBounds
    have distinct := (validate_eq_ok_iff.mp isValid).1
    have indexEq := indexOf?_of_nodup distinct inBounds
    refine ⟨indexEq, ?_⟩
    rw [find?_eq_bind_indexOf?, indexEq, Option.bind_some, List.getElem?_eq_getElem inBounds]

def unitMasses (primary? : Option ParticleId) (ids : List ParticleId) : Simulation Float :=
  { (empty : Simulation Float) with
    primary? := primary?
    particles := ids.map fun id => .pointMass id "" 1.0 }

/-- Of two identifiers that are repeated, the one whose repetition comes first is named, and
not the primary that is missing as well. -/
theorem validate_exact_of_unitMasses :
    (unitMasses (some ⟨5⟩) [⟨3⟩, ⟨5⟩]).validate = .ok () ∧
    (unitMasses (some ⟨5⟩) [⟨3⟩, ⟨5⟩]).indexOf? ⟨5⟩ = some 1 ∧
    ¬ (unitMasses (some ⟨9⟩) [⟨3⟩, ⟨5⟩, ⟨5⟩, ⟨3⟩]).ids.Nodup ∧
    (unitMasses (some ⟨9⟩) [⟨3⟩, ⟨5⟩, ⟨5⟩, ⟨3⟩]).validate = .error (.duplicateId ⟨5⟩) ∧
    (unitMasses (some ⟨9⟩) [⟨3⟩, ⟨5⟩]).ids.Nodup ∧
    (unitMasses (some ⟨9⟩) [⟨3⟩, ⟨5⟩]).validate = .error (.missingPrimary ⟨9⟩) := by
  have isValid : (unitMasses (some ⟨5⟩) [⟨3⟩, ⟨5⟩]).validate = .ok () := rfl
  have repeats : ¬ (unitMasses (some ⟨9⟩) [⟨3⟩, ⟨5⟩, ⟨5⟩, ⟨3⟩]).ids.Nodup := by decide
  have distinct : (unitMasses (some ⟨9⟩) [⟨3⟩, ⟨5⟩]).ids.Nodup := by decide
  refine ⟨isValid, ?_, repeats, ?_, distinct, ?_⟩
  · obtain ⟨-, -, -, lookups⟩ := validate_exact (unitMasses (some ⟨5⟩) [⟨3⟩, ⟨5⟩])
    exact (lookups isValid 1 (by decide)).1
  · obtain ⟨-, refused, -, -⟩ := validate_exact (unitMasses (some ⟨9⟩) [⟨3⟩, ⟨5⟩, ⟨5⟩, ⟨3⟩])
    obtain ⟨index, particle, isFirst, validateEq⟩ := refused repeats
    rw [validateEq]
    -- The two particles in front repeat nothing, and the last one comes too late.
    rcases index with _ | _ | _ | index
    · exact absurd isFirst.repeated (by simp)
    · obtain rfl := Option.some.inj isFirst.particleAt
      exact absurd isFirst.repeated (by decide)
    · obtain rfl := Option.some.inj isFirst.particleAt
      rfl
    · exact absurd (by decide) (isFirst.least 2 (by omega) _ rfl)
  · obtain ⟨-, -, missing, -⟩ := validate_exact (unitMasses (some ⟨9⟩) [⟨3⟩, ⟨5⟩])
    exact missing ⟨9⟩ distinct rfl (by decide)

end Simulation

end Telemetry
