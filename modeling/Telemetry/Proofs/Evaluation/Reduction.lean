import Telemetry.Proofs.Simulation.Barycenter
import Telemetry.Proofs.Evaluation.Denotation
import Telemetry.Proofs.Template.Vocabulary

/-!
# What a reduction is taken over

A tag that can be averaged stands for a number, or for a vector, of every particle: the kind
that the vocabulary gives for the tag is the kind of the value that is read.  So a reduction
leaves out no particle, whatever it picks from its sample.  It is the mean or the deviation
of exactly as many numbers as there are particles, taken in the order of the particles.
-/

namespace Telemetry

variable {α : Type}

/-- A value for every particle makes a sequence of values. -/
theorem Snapshot.exists_values {snapshot : Snapshot α} {Output : Type}
    {IsValue : Nat → Body α → Output → Prop} (nonempty : 0 < snapshot.particleCount)
    (resolved : ∀ (index : Nat) (body : Body α), snapshot.bodies[index]? = some body →
      ∃ output, IsValue index body output) :
    ∃ values : Nat → Output, ∀ (index : Nat) (body : Body α),
      snapshot.bodies[index]? = some body → IsValue index body (values index) := by
  -- Positions behind the last particle are given the value of the first.
  obtain ⟨filler, -⟩ := resolved 0 _ (List.getElem?_eq_getElem nonempty)
  have exists_value (index : Nat) : ∃ output, ∀ body, snapshot.bodies[index]? = some body →
      IsValue index body output := by
    cases bodyAt : snapshot.bodies[index]? with
    | none => exact ⟨filler, fun body isBody => absurd isBody (by simp)⟩
    | some body =>
        obtain ⟨output, isValue⟩ := resolved index body bodyAt
        refine ⟨output, fun other isBody => ?_⟩
        rwa [← Option.some.inj isBody]
  choose values areValues using exists_value
  exact ⟨values, areValues⟩

/-! ## Kinds of values -/

def Value.kind : Value α → ValueKind
  | .scalar _ => .scalar
  | .vector _ => .vector
  | .text _ => .text
  | .integer _ => .integer

theorem SimulationTag.kind_of_value (tag : SimulationTag) (snapshot : Snapshot α) :
    (tag.value snapshot).kind = tag.kind := by
  cases tag <;> rfl

/-- What can be averaged is a number or a vector. -/
theorem Aggregate.kind_tag (aggregate : Aggregate) :
    aggregate.tag.kind = .scalar ∨ aggregate.tag.kind = .vector := by
  simpa [ParticleTag.isAggregable] using aggregate.isAggregable

variable [Scalar α]

/-- The vocabulary announces the kind of every value that a tag stands for. -/
theorem ParticleTag.kind_of_value {tag : ParticleTag} {body : Body α} {index : Nat}
    {value : Value α} (read : (tag.value body index).outcome = .ok value) :
    value.kind = tag.kind := by
  -- Both sides are tables over the tags, and a tag that reads orbits may have no value.
  have sameKind : (tag.value body index).outcome.map Value.kind =
      (tag.value body index).outcome.map fun _ => tag.kind := by
    obtain ⟨particle, orbit⟩ := body
    cases orbit with
    | error cause => cases tag <;> rfl
    | ok orbit => cases tag <;> rfl
  rw [read] at sameKind
  exact Except.ok.inj sameKind

/-- A reduction of numbers is a number, and a reduction of vectors is a vector. -/
theorem Aggregate.kind_of_meaning {reduced : Aggregate} {snapshot : Snapshot α}
    {value : Value α} (means : reduced.meaning snapshot = .ok value) :
    value.kind = reduced.tag.kind := by
  have kind_reduce (sample : List (Value α)) :
      (reduced.reduce sample).kind = reduced.tag.kind := by
    rcases reduced.kind_tag with isScalar | isVector
    · simp [reduce, isScalar, Value.kind]
    · simp [reduce, isVector, Value.kind]
  unfold meaning at means
  split at means
  · exact absurd means (by simp)
  · obtain ⟨sample, -, isReduced⟩ := bind_eq_ok_iff.mp means
    rw [pure_eq_ok_iff.mp isReduced]
    exact kind_reduce sample

theorem ParticleTag.exists_scalar_of_value {tag : ParticleTag} {body : Body α} {index : Nat}
    (isScalar : tag.kind = .scalar)
    (resolves : ∃ value, (tag.value body index).outcome = .ok value) :
    ∃ number, (tag.value body index).outcome = .ok (.scalar number) := by
  obtain ⟨value, read⟩ := resolves
  have kindEq := (kind_of_value read).trans isScalar
  cases value with
  | scalar number => exact ⟨number, read⟩
  | vector vector => exact absurd kindEq (by simp [Value.kind])
  | text text => exact absurd kindEq (by simp [Value.kind])
  | integer integer => exact absurd kindEq (by simp [Value.kind])

theorem ParticleTag.exists_vector_of_value {tag : ParticleTag} {body : Body α} {index : Nat}
    (isVector : tag.kind = .vector)
    (resolves : ∃ value, (tag.value body index).outcome = .ok value) :
    ∃ vector, (tag.value body index).outcome = .ok (.vector vector) := by
  obtain ⟨value, read⟩ := resolves
  have kindEq := (kind_of_value read).trans isVector
  cases value with
  | scalar number => exact absurd kindEq (by simp [Value.kind])
  | vector vector => exact ⟨vector, read⟩
  | text text => exact absurd kindEq (by simp [Value.kind])
  | integer integer => exact absurd kindEq (by simp [Value.kind])

/-! ## Numbers in a sequence -/

/-- `x 0 + ⋯ + x (count - 1)`, added from left to right.  As in all sums, adding starts from
negative zero. -/
def sumOfFirst (x : Nat → α) : (count : Nat) → α
  | 0 => -0.0
  | count + 1 => sumOfFirst x count + x count

theorem sum_map_range (x : Nat → α) (count : Nat) :
    Scalar.sum ((List.range count).map x) = sumOfFirst x count := by
  unfold Scalar.sum
  induction count with
  | zero => rfl
  | succ count ih =>
      rw [List.range_succ, List.map_append, List.foldl_append, ih]
      rfl

namespace Reduction

/-- The mean of `x 0, …, x (count - 1)`, or the root of their mean square distance from it. -/
def ofFirst (reduction : Reduction) (count : Nat) (x : Nat → α) : α :=
  let mean := sumOfFirst x count / Scalar.ofNat count
  match reduction with
  | .average => mean
  | .deviation =>
      Scalar.sqrt
        (sumOfFirst (fun index => (x index - mean) * (x index - mean)) count /
          Scalar.ofNat count)

theorem mean_map_range (x : Nat → α) (count : Nat) :
    mean ((List.range count).map x) = sumOfFirst x count / Scalar.ofNat count := by
  rw [mean, sum_map_range, List.length_map, List.length_range]

theorem apply_map_range (reduction : Reduction) (x : Nat → α) (count : Nat) :
    reduction.apply ((List.range count).map x) = reduction.ofFirst count x := by
  cases reduction with
  | average => exact mean_map_range x count
  | deviation =>
      simp only [apply, ofFirst, List.map_map, mean_map_range, Function.comp_def]

end Reduction

/-! ## Samples -/

namespace Aggregate

theorem reduce_scalars {aggregate : Aggregate} (isScalar : aggregate.tag.kind = .scalar)
    (x : Nat → α) (count : Nat) :
    aggregate.reduce ((List.range count).map fun index => .scalar (x index)) =
      .scalar (aggregate.reduction.ofFirst count x) := by
  have nothingDropped :
      ((List.range count).map fun index => Value.scalar (x index)).filterMap Value.asScalar? =
        (List.range count).map x := by
    rw [List.filterMap_map]
    exact congrFun List.filterMap_eq_map' (List.range count)
  rw [reduce, isScalar, nothingDropped, Reduction.apply_map_range]
  rfl

theorem reduce_vectors {aggregate : Aggregate} (isVector : aggregate.tag.kind = .vector)
    (v : Nat → Vec3 α) (count : Nat) :
    aggregate.reduce ((List.range count).map fun index => .vector (v index)) =
      .vector
        { x := aggregate.reduction.ofFirst count fun index => (v index).x
          y := aggregate.reduction.ofFirst count fun index => (v index).y
          z := aggregate.reduction.ofFirst count fun index => (v index).z } := by
  have nothingDropped :
      ((List.range count).map fun index => Value.vector (v index)).filterMap Value.asVector? =
        (List.range count).map v := by
    rw [List.filterMap_map]
    exact congrFun List.filterMap_eq_map' (List.range count)
  rw [reduce, if_pos isVector, nothingDropped]
  simp only [List.map_map, Function.comp_def, Reduction.apply_map_range]

/-- A reduction is made from the values of its tag for all particles, in their order. -/
theorem outcome_value_of_values {aggregate : Aggregate} {snapshot : Snapshot α}
    (nonempty : 0 < snapshot.particleCount) {values : Nat → Value α}
    (read : ∀ (index : Nat) (body : Body α), snapshot.bodies[index]? = some body →
      (aggregate.tag.value body index).outcome = .ok (values index)) :
    (aggregate.value snapshot).outcome =
      .ok (aggregate.reduce ((List.range snapshot.particleCount).map values)) := by
  have notEmpty : snapshot.bodies ≠ [] := List.length_pos_iff.mp nonempty
  have sampled : (snapshot.bodies.zipIdx.mapM fun indexed =>
      (aggregate.tag.value indexed.1 indexed.2).outcome) =
      .ok ((List.range snapshot.particleCount).map values) :=
    mapM_zipIdx_eq_ok read
  rw [outcome_value, meaning, if_neg notEmpty, sampled]
  rfl

/-- A reduction takes every particle exactly once.  If its tag has a value for each of them,
these values are numbers or vectors as the kind of the tag says, and the result is of the
same kind: the mean or the deviation of all the numbers, or of all the vectors component by
component. -/
theorem value_of_resolved {reduction : Reduction} {tag : ParticleTag} {aggregate : Aggregate}
    (made : Aggregate.make? reduction tag = some aggregate) {snapshot : Snapshot α}
    (nonempty : 0 < snapshot.particleCount)
    (resolved : ∀ (index : Nat) (body : Body α), snapshot.bodies[index]? = some body →
      ∃ value, (tag.value body index).outcome = .ok value) :
    (tag.kind = .scalar ∧ ∃ x : Nat → α,
      (∀ (index : Nat) (body : Body α), snapshot.bodies[index]? = some body →
        (tag.value body index).outcome = .ok (.scalar (x index))) ∧
      (aggregate.value snapshot).outcome =
        .ok (.scalar (reduction.ofFirst snapshot.particleCount x))) ∨
    (tag.kind = .vector ∧ ∃ v : Nat → Vec3 α,
      (∀ (index : Nat) (body : Body α), snapshot.bodies[index]? = some body →
        (tag.value body index).outcome = .ok (.vector (v index))) ∧
      (aggregate.value snapshot).outcome =
        .ok (.vector
          { x := reduction.ofFirst snapshot.particleCount fun index => (v index).x
            y := reduction.ofFirst snapshot.particleCount fun index => (v index).y
            z := reduction.ofFirst snapshot.particleCount fun index => (v index).z })) := by
  obtain ⟨rfl, rfl⟩ := Aggregate.make?_eq_some_iff.mp made
  rcases aggregate.kind_tag with isScalar | isVector
  · left
    obtain ⟨x, read⟩ := Snapshot.exists_values nonempty fun index body bodyAt =>
      ParticleTag.exists_scalar_of_value isScalar (resolved index body bodyAt)
    refine ⟨isScalar, x, read, ?_⟩
    rw [outcome_value_of_values nonempty read, reduce_scalars isScalar]
  · right
    obtain ⟨v, read⟩ := Snapshot.exists_values nonempty fun index body bodyAt =>
      ParticleTag.exists_vector_of_value isVector (resolved index body bodyAt)
    refine ⟨isVector, v, read, ?_⟩
    rw [outcome_value_of_values nonempty read, reduce_vectors isVector]

/-- The distances of two particles from their barycenter are one and three, and the deviation
from their mean is one. -/
theorem value_of_resolved_of_pair :
    letI := Scalar.exact .onWholeNumbers
    let snapshot := Simulation.starAndPlanet.snapshot
    Aggregate.make? .deviation .referenceDistance =
        some ⟨.deviation, .referenceDistance, rfl⟩ ∧
      0 < snapshot.particleCount ∧
      (∀ (index : Nat) (body : Body ℚ), snapshot.bodies[index]? = some body →
        (ParticleTag.value body index .referenceDistance).outcome =
          .ok (.scalar (2 * index + 1))) ∧
      (Aggregate.value snapshot ⟨.deviation, .referenceDistance, rfl⟩).outcome =
        .ok (.scalar 1) := by
  let := Scalar.exact .onWholeNumbers
  let snapshot := Simulation.starAndPlanet.snapshot
  have made : Aggregate.make? .deviation .referenceDistance =
      some ⟨.deviation, .referenceDistance, rfl⟩ := rfl
  have nonempty : 0 < snapshot.particleCount := by decide
  have distances (index : Nat) (body : Body ℚ) (bodyAt : snapshot.bodies[index]? = some body) :
      (ParticleTag.value body index .referenceDistance).outcome =
        .ok (.scalar (2 * index + 1)) := by
    rcases index with _ | _ | index
    · obtain rfl := Option.some.inj bodyAt
      decide +kernel
    · obtain rfl := Option.some.inj bodyAt
      decide +kernel
    · exact absurd bodyAt (by simp [snapshot, Simulation.snapshot, Simulation.starAndPlanet,
        Simulation.push, Simulation.empty])
  refine ⟨made, nonempty, distances, ?_⟩
  rcases value_of_resolved made nonempty fun index body bodyAt =>
      ⟨_, distances index body bodyAt⟩ with ⟨-, x, read, valueEq⟩ | ⟨isVector, -⟩
  · have sameNumber (index : Nat) (body : Body ℚ) (bodyAt : snapshot.bodies[index]? = some body) :
        x index = 2 * index + 1 := by
      have same := (read index body bodyAt).symm.trans (distances index body bodyAt)
      exact Value.scalar.inj (Except.ok.inj same)
    have first : x 0 = 1 := (sameNumber 0 _ rfl).trans (by decide +kernel)
    have second : x 1 = 3 := (sameNumber 1 _ rfl).trans (by decide +kernel)
    have deviation : Reduction.ofFirst .deviation 2 x = 1 := by
      simp only [Reduction.ofFirst, sumOfFirst, first, second]
      decide +kernel
    rw [valueEq]
    exact congrArg (Except.ok ∘ Value.scalar) deviation
  · exact absurd isVector (by decide)

end Aggregate

end Telemetry
