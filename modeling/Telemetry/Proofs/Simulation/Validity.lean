import Telemetry.EccentricDisk
import Telemetry.Simulation.Document
import Mathlib.Data.List.Nodup

/-!
# Valid simulations

The identifiers of a valid simulation are distinct and its primary exists, so that
orbits are measured against the one particle that the primary names.  Simulations that
are read are valid, and so are generated disks as long as there are identifiers for all
of their stars.
-/

namespace Telemetry

namespace Simulation

variable {α : Type}

def ids (simulation : Simulation α) : List ParticleId :=
  simulation.particles.map (·.id)

theorem firstRepeated?_eq_none_iff {seen ids : List ParticleId} :
    firstRepeated? seen ids = none ↔ ids.Nodup ∧ ∀ id ∈ ids, id ∉ seen := by
  induction ids generalizing seen with
  | nil => simp [firstRepeated?]
  | cons id ids ih =>
      rw [firstRepeated?]
      split
      · rename_i repeated
        simp [repeated]
      · rename_i isNew
        rw [ih, List.nodup_cons, List.forall_mem_cons]
        simp only [List.mem_cons, not_or]
        constructor
        · rintro ⟨distinct, unseen⟩
          exact ⟨⟨fun member => (unseen id member).1 rfl, distinct⟩, isNew,
            fun other member => (unseen other member).2⟩
        · rintro ⟨⟨notRepeated, distinct⟩, -, unseen⟩
          refine ⟨distinct, fun other member => ⟨?_, unseen other member⟩⟩
          rintro rfl
          exact notRepeated member

theorem firstRepeated?_ids_eq_none_iff {simulation : Simulation α} :
    firstRepeated? [] simulation.ids = none ↔ simulation.ids.Nodup := by
  simp [firstRepeated?_eq_none_iff]

theorem validate_eq_ok_iff {simulation : Simulation α} :
    simulation.validate = .ok () ↔
      simulation.ids.Nodup ∧ ∀ id ∈ simulation.primary?, id ∈ simulation.ids := by
  have distinctIff : firstRepeated? [] (simulation.particles.map (·.id)) = none ↔
      simulation.ids.Nodup := firstRepeated?_ids_eq_none_iff
  unfold validate
  dsimp only
  cases repeats : firstRepeated? [] (simulation.particles.map (·.id)) with
  | some id =>
      rw [repeats] at distinctIff
      simp only [reduceCtorEq, false_iff, not_and]
      exact fun distinct => absurd (distinctIff.mpr distinct) (by simp)
  | none =>
      rw [and_iff_right (distinctIff.mp repeats)]
      cases simulation.primary? with
      | none => simp
      | some id => simp [ids]

theorem filter_eq_singleton_of_nodup {particles : List (Particle α)} {particle : Particle α}
    (distinct : (particles.map (·.id)).Nodup) (member : particle ∈ particles) :
    particles.filter (·.id = particle.id) = [particle] := by
  obtain ⟨before, after, rfl⟩ := List.append_of_mem member
  rw [List.map_append, List.map_cons, List.nodup_append] at distinct
  obtain ⟨-, distinctAfter, apart⟩ := distinct
  have noneBefore : before.filter (·.id = particle.id) = [] := by
    refine List.filter_eq_nil_iff.mpr fun other otherMember => ?_
    rw [decide_eq_true_eq]
    exact apart other.id (List.mem_map_of_mem otherMember) particle.id List.mem_cons_self
  have noneAfter : after.filter (·.id = particle.id) = [] := by
    refine List.filter_eq_nil_iff.mpr fun other otherMember => ?_
    rw [decide_eq_true_eq]
    intro sameId
    exact (List.nodup_cons.mp distinctAfter).1 (sameId ▸ List.mem_map_of_mem otherMember)
  rw [List.filter_append, noneBefore, List.filter_cons_of_pos (by simp), noneAfter,
    List.nil_append]

theorem find?_eq_head? (simulation : Simulation α) (id : ParticleId) :
    simulation.find? id = (simulation.particles.filter (·.id = id)).head? :=
  List.head?_filter.symm

theorem mem_ids_of_find? {simulation : Simulation α} {id : ParticleId} {particle : Particle α}
    (found : simulation.find? id = some particle) : id ∈ simulation.ids := by
  have isFound := List.find?_some found
  rw [decide_eq_true_eq] at isFound
  exact isFound ▸ List.mem_map_of_mem (List.mem_of_find?_eq_some found)

variable [Scalar α]

theorem referenceBody_of_unset {simulation : Simulation α}
    (unset : simulation.primary? = none) :
    simulation.referenceBody = barycenter simulation.particles := by
  rw [referenceBody, primaryParticle?, unset]
  rfl

theorem referenceBody_of_named {simulation : Simulation α} {id : ParticleId}
    {particle : Particle α} (isPrimary : simulation.primary? = some id)
    (named : simulation.particles.filter (·.id = id) = [particle]) :
    simulation.referenceBody = particle := by
  rw [referenceBody, primaryParticle?, isPrimary, Option.bind_some, find?_eq_head?, named]
  rfl

/-- Identifiers are distinct, and orbits are measured against the one particle that the
primary names if there is a primary. -/
structure Consistent (simulation : Simulation α) : Prop where
  isValid : simulation.validate = .ok ()
  distinct : simulation.ids.Nodup
  primaryNames : ∀ id, simulation.primary? = some id → ∃ particle,
    simulation.particles.filter (·.id = id) = [particle] ∧
      simulation.referenceBody = particle

/-- Passing the check is all that it takes. -/
theorem consistent_iff {simulation : Simulation α} :
    simulation.Consistent ↔ simulation.validate = .ok () := by
  refine ⟨Consistent.isValid, fun isValid => ?_⟩
  obtain ⟨distinct, primaryExists⟩ := validate_eq_ok_iff.mp isValid
  refine ⟨isValid, distinct, fun id isPrimary => ?_⟩
  obtain ⟨particle, member, rfl⟩ := List.mem_map.mp (primaryExists id isPrimary)
  have named := filter_eq_singleton_of_nodup distinct member
  exact ⟨particle, named, referenceBody_of_named isPrimary named⟩

theorem Consistent.clearPrimary {simulation : Simulation α}
    (consistent : simulation.Consistent) :
    ({ simulation with primary? := none } : Simulation α).Consistent := by
  rw [consistent_iff, validate_eq_ok_iff]
  exact ⟨consistent.distinct, by simp⟩

theorem Consistent.setPrimary {simulation : Simulation α} (consistent : simulation.Consistent)
    {id : ParticleId} {particle : Particle α} (found : simulation.find? id = some particle) :
    ({ simulation with primary? := some id } : Simulation α).Consistent := by
  rw [consistent_iff, validate_eq_ok_iff]
  refine ⟨consistent.distinct, fun other isPrimary => ?_⟩
  obtain rfl := Option.some.inj isPrimary
  exact mem_ids_of_find? found

/-! ## Simulations that are read -/

theorem consistent_of_checked {simulation accepted : Simulation α}
    (isAccepted : simulation.checked = .ok accepted) : accepted.Consistent := by
  unfold checked at isAccepted
  split at isAccepted
  · rename_i isValid
    obtain rfl := Except.ok.inj isAccepted
    exact consistent_iff.mpr isValid
  · exact absurd isAccepted (by simp)

theorem consistent_of_ofJson {document : String} {simulation : Simulation α}
    (read : ofJson document = .ok simulation) : simulation.Consistent := by
  unfold ofJson at read
  split at read
  · exact absurd read (by simp)
  · exact consistent_of_checked read

theorem consistent_of_ofRon {document : String} {simulation : Simulation α}
    (read : ofRon document = .ok simulation) : simulation.Consistent := by
  unfold ofRon at read
  split at read
  · exact absurd read (by simp)
  · split at read
    · exact absurd read (by simp)
    · exact consistent_of_checked read

theorem consistent_of_load {disk : Disk} {path : String} {simulation : Simulation α}
    (read : load disk path = .ok simulation) : simulation.Consistent := by
  unfold load at read
  split at read
  · exact absurd read (by simp)
  · exact consistent_of_ofRon read

/-! ## Generated disks -/

section Disks

variable {σ : Type} [RandomSource σ]

theorem map_id_stars (count number : Nat) (source : σ) :
    (EccentricDisk.stars (α := α) count number source).map (·.id) =
      (List.range' number count).map fun number => ⟨UInt32.ofNat number⟩ := by
  induction count generalizing number source with
  | zero => rfl
  | succ count ih => exact congrArg (_ :: ·) (ih (number + 1) _)

/-- Identifiers count the stars, whatever is drawn from the source. -/
theorem ids_eccentricDisk (source : σ) (count : Nat) :
    (eccentricDisk (α := α) source count).ids =
      (List.range (count + 1)).map fun number => ⟨UInt32.ofNat number⟩ := by
  have moved (simulation : Simulation α) : simulation.moveToBarycenter.ids = simulation.ids := by
    simp [moveToBarycenter, ids, Function.comp_def]
  rw [eccentricDisk, moved, ids, List.map_cons, map_id_stars, List.range_eq_range',
    List.range'_succ]
  rfl

/-- There is one identifier for every number below the size of a word.  The disk with one
more star gives the identifier of the central body to a star. -/
theorem nodup_ids_eccentricDisk_iff {source : σ} {count : Nat} :
    (eccentricDisk (α := α) source count).ids.Nodup ↔ count < UInt32.size := by
  rw [ids_eccentricDisk]
  constructor
  · intro distinct
    by_contra tooMany
    have clash := List.inj_on_of_nodup_map distinct (x := 0) (by simp) (y := UInt32.size)
      (List.mem_range.mpr (by omega)) (by decide)
    exact absurd clash (by decide)
  · intro bound
    refine List.nodup_range.map_on fun first firstMember second secondMember sameId => ?_
    rw [List.mem_range] at firstMember secondMember
    have sameNumber := congrArg (fun id : ParticleId => id.value.toNat) sameId
    dsimp only at sameNumber
    rwa [UInt32.toNat_ofNat_of_lt' (by omega), UInt32.toNat_ofNat_of_lt' (by omega)] at sameNumber

theorem consistent_eccentricDisk_iff {source : σ} {count : Nat} :
    (eccentricDisk (α := α) source count).Consistent ↔ count < UInt32.size := by
  rw [consistent_iff, validate_eq_ok_iff, nodup_ids_eccentricDisk_iff]
  refine and_iff_left fun id isPrimary => ?_
  exact absurd isPrimary (by simp [eccentricDisk, moveToBarycenter, empty])

end Disks

end Simulation

end Telemetry
