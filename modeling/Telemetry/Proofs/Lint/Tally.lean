import Telemetry.Lint.Findings
import Mathlib.Algebra.Ring.Nat
import Mathlib.Data.List.Nodup

/-!
# Tallies

A tally has one entry for each key that occurs, which holds the first member with that key
and counts all of them.  Its entries for a key follow from the members with that key alone,
and its counts add up to the number of all members.
-/

namespace Telemetry

variable {Member Key : Type} [DecidableEq Key] {key : Member → Key}

theorem withKey_withoutKey_self (value : Key) (members : List Member) :
    withKey key value (withoutKey key value members) = [] := by
  unfold withKey withoutKey
  simp [List.filter_filter]

theorem withKey_withoutKey_of_ne {value other : Key} (different : other ≠ value)
    (members : List Member) :
    withKey key value (withoutKey key other members) = withKey key value members := by
  unfold withKey withoutKey
  rw [List.filter_filter]
  apply List.filter_congr
  intro member _
  by_cases hasKey : key member = value
  · simp [hasKey, different.symm]
  · simp [hasKey]

/-- The entries of a tally for a key: none where no member has the key, and otherwise one
with the first such member and their number. -/
theorem withKey_tally (value : Key) (members : List Member) :
    withKey (fun entry => key entry.1) value (tally key members) =
      ((withKey key value members).head?.map fun first =>
        (first, (withKey key value members).length)).toList := by
  fun_induction tally key members with
  | case1 => rfl
  | case2 first rest ih =>
      by_cases isFirst : key first = value
      · subst isFirst
        rw [withKey_withoutKey_self] at ih
        have noneLeft : withKey (fun entry => key entry.1) (key first)
            (tally key (withoutKey key (key first) rest)) = [] := ih
        have firstCounted : withKey key (key first) (first :: rest) =
            first :: withKey key (key first) rest := List.filter_cons_of_pos (by simp)
        have entryKept (entries : List (Member × Nat)) (count : Nat) :
            withKey (fun entry => key entry.1) (key first) ((first, count) :: entries) =
              (first, count) :: withKey (fun entry => key entry.1) (key first) entries :=
          List.filter_cons_of_pos (by simp)
        rw [entryKept, noneLeft, firstCounted]
        rfl
      · rw [withKey_withoutKey_of_ne isFirst] at ih
        have firstSkipped : withKey key value (first :: rest) = withKey key value rest :=
          List.filter_cons_of_neg (by simpa using isFirst)
        have entrySkipped (entries : List (Member × Nat)) (count : Nat) :
            withKey (fun entry => key entry.1) value ((first, count) :: entries) =
              withKey (fun entry => key entry.1) value entries :=
          List.filter_cons_of_neg (by simpa using isFirst)
        rw [entrySkipped, firstSkipped, ih]

theorem withoutKey_eq_self {value : Key} {members : List Member}
    (others : ∀ member ∈ members, value ≠ key member) :
    withoutKey key value members = members := by
  refine List.filter_eq_self.mpr fun member isMember => ?_
  rw [decide_eq_true_eq]
  exact (others member isMember).symm

/-- No count exceeds one exactly when keys do not repeat. -/
theorem filter_tally_eq_nil_iff {members : List Member} :
    (tally key members).filter (·.2 > 1) = [] ↔
      members.Pairwise fun first second => key first ≠ key second := by
  fun_induction tally key members with
  | case1 => simp
  | case2 first rest ih =>
      have alone : (withKey key (key first) (first :: rest)).length ≤ 1 ↔
          ∀ member ∈ rest, key first ≠ key member := by
        rw [withKey, List.filter_cons_of_pos (by simp), List.length_cons, ← Nat.zero_add 1,
          Nat.add_le_add_iff_right, Nat.le_zero, List.length_eq_zero_iff, List.filter_eq_nil_iff]
        refine forall₂_congr fun member _ => ?_
        rw [decide_eq_true_eq, eq_comm]
      rw [List.pairwise_cons, ← alone, List.filter_cons]
      -- Only when nothing shares the first key is the remaining tally one of all of the rest.
      split
      · rename_i repeats
        rw [decide_eq_true_eq] at repeats
        simp only [reduceCtorEq, false_iff, not_and]
        exact fun isAlone => absurd isAlone (Nat.not_le.mpr repeats)
      · rename_i isAlone
        rw [decide_eq_true_eq, Nat.not_lt] at isAlone
        rw [ih, withoutKey_eq_self (alone.mp isAlone), and_iff_right isAlone]

theorem mem_tally_iff {members : List Member} {first : Member} {count : Nat} :
    (first, count) ∈ tally key members ↔
      (withKey key (key first) members).head? = some first ∧
        (withKey key (key first) members).length = count := by
  have memberIff : (first, count) ∈ tally key members ↔
      (first, count) ∈ withKey (fun entry => key entry.1) (key first) (tally key members) := by
    simp [withKey]
  rw [memberIff, withKey_tally, Option.mem_toList, Option.map_eq_some_iff]
  simp only [Prod.mk.injEq]
  constructor
  · rintro ⟨member, isFirst, rfl, countEq⟩
    exact ⟨isFirst, countEq⟩
  · rintro ⟨isFirst, countEq⟩
    exact ⟨first, isFirst, rfl, countEq⟩

/-- No two entries have the same key. -/
theorem nodup_keys_tally (members : List Member) :
    ((tally key members).map fun entry => key entry.1).Nodup := by
  rw [List.nodup_iff_count_le_one]
  intro value
  have countEq : ((tally key members).map fun entry => key entry.1).count value =
      (withKey (fun entry => key entry.1) value (tally key members)).length := by
    rw [List.count, List.countP_map, List.countP_eq_length_filter]
    rfl
  rw [countEq, withKey_tally]
  cases (withKey key value members).head? with
  | none => exact Nat.zero_le 1
  | some first => exact Nat.le_refl 1

/-- Every member is counted once. -/
theorem sum_counts_tally (members : List Member) :
    ((tally key members).map (·.2)).sum = members.length := by
  fun_induction tally key members with
  | case1 => rfl
  | case2 first rest ih =>
      have parted := List.length_eq_length_filter_add (l := rest) (key · = key first)
      have firstCounted : (withKey key (key first) (first :: rest)).length =
          (withKey key (key first) rest).length + 1 := by
        rw [withKey, List.filter_cons_of_pos (by simp), List.length_cons]
        rfl
      have others : withoutKey key (key first) rest =
          rest.filter fun member => !decide (key member = key first) := by
        simp [withoutKey]
      rw [List.map_cons, List.sum_cons, ih, firstCounted, others, List.length_cons, parted]
      exact Nat.add_right_comm _ 1 _

/-- A member that serves as its own key is counted as often as it occurs. -/
theorem mem_tally_id_iff {members : List Key} {member : Key} {count : Nat} :
    (member, count) ∈ tally id members ↔ 0 < count ∧ members.count member = count := by
  have copies : withKey id (id member) members =
      List.replicate (members.count member) member := List.filter_beq member
  rw [mem_tally_iff, copies, List.length_replicate, List.head?_replicate]
  constructor
  · rintro ⟨isFirst, rfl⟩
    refine ⟨Nat.pos_of_ne_zero fun absent => ?_, rfl⟩
    rw [if_pos absent] at isFirst
    exact absurd isFirst (by simp)
  · rintro ⟨occurs, rfl⟩
    exact ⟨if_neg (Nat.ne_of_gt occurs), rfl⟩

end Telemetry
