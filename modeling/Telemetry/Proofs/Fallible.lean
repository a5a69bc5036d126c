import Mathlib.Data.List.Forall2

/-!
# Steps that can fail

Steps are taken one after the other until one fails.  They succeed exactly when
every step does, with the results in order, and fail exactly with the error of
the first failing step.
-/

namespace Telemetry

variable {Input Output Failure : Type}

theorem bind_eq_ok_iff {first : Except Failure Input} {next : Input → Except Failure Output}
    {output : Output} :
    first >>= next = .ok output ↔ ∃ input, first = .ok input ∧ next input = .ok output := by
  cases first <;> simp [bind, Except.bind]

theorem map_eq_ok_iff {first : Except Failure Input} {change : Input → Output}
    {output : Output} :
    first.map change = .ok output ↔ ∃ input, first = .ok input ∧ change input = output := by
  cases first <;> simp [Except.map]

theorem bind_eq_error_iff {first : Except Failure Input} {next : Input → Except Failure Output}
    {failure : Failure} :
    first >>= next = .error failure ↔
      first = .error failure ∨ ∃ input, first = .ok input ∧ next input = .error failure := by
  cases first <;> simp [bind, Except.bind]

theorem bind_pure_eq_error_iff {first : Except Failure Input} {change : Input → Output}
    {failure : Failure} :
    (first >>= fun input => pure (change input)) = .error failure ↔ first = .error failure := by
  cases first <;> simp [bind, pure, Except.bind, Except.pure]

theorem pure_eq_ok_iff {input output : Output} :
    (pure input : Except Failure Output) = .ok output ↔ output = input := by
  rw [eq_comm (a := output)]
  exact Except.ok.injEq input output ▸ Iff.rfl

/-- A check that fails ends the steps, and one that passes changes nothing. -/
theorem guard_eq_ok_iff {refused : Prop} [Decidable refused] {failure : Failure}
    {next : Except Failure Output} {output : Output} :
    (if refused then (throw failure : Except Failure PUnit) >>= fun _ => next else next) =
        .ok output ↔
      ¬ refused ∧ next = .ok output := by
  by_cases isRefused : refused
  · simp [isRefused, bind, Except.bind, throw, throwThe, MonadExceptOf.throw]
  · simp [isRefused]

theorem mapM_eq_ok_iff {step : Input → Except Failure Output} {inputs : List Input}
    {outputs : List Output} :
    inputs.mapM step = .ok outputs ↔
      List.Forall₂ (fun input output => step input = .ok output) inputs outputs := by
  induction inputs generalizing outputs with
  | nil => simp [pure_eq_ok_iff]
  | cons input inputs ih =>
      simp only [List.mapM_cons, bind_eq_ok_iff, pure_eq_ok_iff, ih,
        List.forall₂_cons_left_iff]
      constructor
      · rintro ⟨output, taken, others, allTaken, rfl⟩
        exact ⟨output, others, taken, allTaken, rfl⟩
      · rintro ⟨output, others, taken, allTaken, rfl⟩
        exact ⟨output, taken, others, allTaken, rfl⟩

theorem mapM_eq_mapM_of_forall₂ {Other : Type} {step : Input → Except Failure Output}
    {otherStep : Other → Except Failure Output} {inputs : List Input} {others : List Other}
    (same : List.Forall₂ (fun input other => step input = otherStep other) inputs others) :
    inputs.mapM step = others.mapM otherStep := by
  induction same with
  | nil => rfl
  | cons first _ ih => rw [List.mapM_cons, List.mapM_cons, first, ih]

/-- What is done to every result can be done once all of them are there. -/
theorem mapM_map {Changed : Type} (step : Input → Except Failure Output)
    (change : Output → Changed) (inputs : List Input) :
    (inputs.mapM fun input => (step input).map change) =
      (inputs.mapM step).map (List.map change) := by
  induction inputs with
  | nil => rfl
  | cons input inputs ih =>
      rw [List.mapM_cons, List.mapM_cons, ih]
      cases step input with
      | error failure => rfl
      | ok output => cases inputs.mapM step <;> rfl

/-- Lists that are related member by member are also related with their positions. -/
theorem forall₂_zipIdx {Other : Type} {Related : Input → Other → Prop} {inputs : List Input}
    {others : List Other} (related : List.Forall₂ Related inputs others) (start : Nat) :
    List.Forall₂ (fun first second => Related first.1 second.1 ∧ first.2 = second.2)
      (inputs.zipIdx start) (others.zipIdx start) := by
  induction related generalizing start with
  | nil => exact .nil
  | cons first _ ih => exact .cons ⟨first, rfl⟩ (ih (start + 1))

theorem eq_nil_iff_of_mapM {step : Input → Except Failure Output} {inputs : List Input}
    {outputs : List Output} (taken : inputs.mapM step = .ok outputs) :
    inputs = [] ↔ outputs = [] := by
  rw [← List.length_eq_zero_iff, ← List.length_eq_zero_iff,
    (mapM_eq_ok_iff.mp taken).length_eq]

theorem ne_nil_of_mapM_eq_error {step : Input → Except Failure Output} {inputs : List Input}
    {failure : Failure} (failed : inputs.mapM step = .error failure) : inputs ≠ [] := by
  rintro rfl
  exact absurd failed (by simp [pure, Except.pure])

/-- Two lists are related when they are equally long and related at every
position. -/
theorem forall₂_iff_getElem? {Related : Input → Output → Prop} {inputs : List Input}
    {outputs : List Output} :
    List.Forall₂ Related inputs outputs ↔
      inputs.length = outputs.length ∧
        ∀ (index : Nat) (input : Input) (output : Output), inputs[index]? = some input →
          outputs[index]? = some output → Related input output := by
  rw [List.forall₂_iff_get]
  refine and_congr_right fun lengthEq => ?_
  constructor
  · intro related index input output inputAt outputAt
    obtain ⟨inputBound, rfl⟩ := List.getElem?_eq_some_iff.mp inputAt
    obtain ⟨outputBound, rfl⟩ := List.getElem?_eq_some_iff.mp outputAt
    exact related index inputBound outputBound
  · intro related index inputBound outputBound
    exact related index _ _ (List.getElem?_eq_getElem inputBound)
      (List.getElem?_eq_getElem outputBound)

theorem forall₂_congr_of_mem {Related Other : Input → Output → Prop} {inputs : List Input}
    {outputs : List Output}
    (congr : ∀ input ∈ inputs, ∀ output, Related input output ↔ Other input output) :
    List.Forall₂ Related inputs outputs ↔ List.Forall₂ Other inputs outputs := by
  induction inputs generalizing outputs with
  | nil => simp
  | cons input inputs ih =>
      rw [List.forall_mem_cons] at congr
      simp only [List.forall₂_cons_left_iff, congr.1, ih congr.2]

theorem forall₂_imp_of_mem {Related Other : Input → Output → Prop} {inputs : List Input}
    {outputs : List Output} (related : List.Forall₂ Related inputs outputs)
    (implies : ∀ input ∈ inputs, ∀ output, Related input output → Other input output) :
    List.Forall₂ Other inputs outputs := by
  induction related with
  | nil => exact .nil
  | cons first _ ih =>
      rw [List.forall_mem_cons] at implies
      exact .cons (implies.1 _ first) (ih implies.2)

theorem exists_related_of_mem {Related : Input → Output → Prop} {inputs : List Input}
    {outputs : List Output} (related : List.Forall₂ Related inputs outputs) {input : Input}
    (member : input ∈ inputs) : ∃ output ∈ outputs, Related input output := by
  induction related with
  | nil => exact absurd member List.not_mem_nil
  | @cons first output inputs outputs isRelated _ ih =>
      rcases List.mem_cons.mp member with rfl | isLater
      · exact ⟨output, List.mem_cons_self, isRelated⟩
      · obtain ⟨later, laterMember, laterRelated⟩ := ih isLater
        exact ⟨later, List.mem_cons_of_mem output laterMember, laterRelated⟩

/-- Steps along the positions of a list succeed if every position has a result. -/
theorem mapM_zipIdx_eq_ok {step : Input × Nat → Except Failure Output} {inputs : List Input}
    {outputs : Nat → Output}
    (taken : ∀ (index : Nat) (input : Input), inputs[index]? = some input →
      step (input, index) = .ok (outputs index)) :
    inputs.zipIdx.mapM step = .ok ((List.range inputs.length).map outputs) := by
  rw [mapM_eq_ok_iff, forall₂_iff_getElem?]
  refine ⟨by simp, ?_⟩
  intro index indexed output indexedAt outputAt
  rw [List.getElem?_zipIdx, Option.map_eq_some_iff] at indexedAt
  obtain ⟨input, inputAt, rfl⟩ := indexedAt
  obtain ⟨inBounds, -⟩ := List.getElem?_eq_some_iff.mp inputAt
  rw [List.getElem?_map, List.getElem?_range inBounds, Option.map_some,
    Option.some.injEq] at outputAt
  rw [Nat.zero_add, ← outputAt]
  exact taken index input inputAt

/-- Steps that do not depend on the position succeed if all inputs have a result. -/
theorem mapM_zipIdx_eq_ok_iff {step : Input × Nat → Except Failure Output}
    {result? : Input → Option Output}
    (ignores : ∀ (input : Input) (index : Nat), (step (input, index)).toOption = result? input)
    {inputs : List Input} {start : Nat} {outputs : List Output} :
    (inputs.zipIdx start).mapM step = .ok outputs ↔
      (∀ input ∈ inputs, (result? input).isSome) ∧ inputs.filterMap result? = outputs := by
  induction inputs generalizing start outputs with
  | nil =>
      rw [List.zipIdx_nil, List.mapM_nil, pure_eq_ok_iff, List.filterMap_nil, eq_comm]
      exact (and_iff_right (List.forall_mem_nil _)).symm
  | cons input inputs ih =>
      have resultEq := ignores input start
      rw [List.zipIdx_cons, List.mapM_cons, List.forall_mem_cons, List.filterMap_cons]
      cases stepEq : step (input, start) with
      | error failure =>
          rw [stepEq] at resultEq
          have unresolved : result? input = none := resultEq.symm
          simp [unresolved, bind, Except.bind]
      | ok output =>
          rw [stepEq] at resultEq
          rw [← resultEq]
          show (inputs.zipIdx (start + 1)).mapM step >>= (fun others => pure (output :: others)) =
            .ok outputs ↔ _
          rw [bind_eq_ok_iff]
          constructor
          · rintro ⟨others, taken, isResult⟩
            obtain ⟨resolved, rfl⟩ := ih.mp taken
            exact ⟨⟨rfl, resolved⟩, (pure_eq_ok_iff.mp isResult).symm⟩
          · rintro ⟨⟨-, resolved⟩, rfl⟩
            exact ⟨_, ih.mpr ⟨resolved, rfl⟩, rfl⟩

/-! ## The first failure -/

def failure? : Except Failure Output → Option Failure
  | .ok _ => none
  | .error failure => some failure

theorem failure?_eq_some_iff {outcome : Except Failure Output} {failure : Failure} :
    failure? outcome = some failure ↔ outcome = .error failure := by
  cases outcome <;> simp [failure?]

@[simp]
theorem failure?_map (change : Input → Output) (outcome : Except Failure Input) :
    failure? (outcome.map change) = failure? outcome := by
  cases outcome <;> rfl

@[simp]
theorem failure?_bind_pure (change : Input → Output) (outcome : Except Failure Input) :
    failure? (outcome >>= fun input => pure (change input)) = failure? outcome := by
  cases outcome <;> rfl

theorem failure?_mapM (step : Input → Except Failure Output) (inputs : List Input) :
    failure? (inputs.mapM step) = inputs.findSome? fun input => failure? (step input) := by
  induction inputs with
  | nil => rfl
  | cons input inputs ih =>
      rw [List.mapM_cons, List.findSome?_cons, ← ih]
      cases step input with
      | error failure => rfl
      | ok output => exact failure?_bind_pure (output :: ·) (inputs.mapM step)

theorem failure?_eq_none_iff {outcome : Except Failure Output} :
    failure? outcome = none ↔ ∃ output, outcome = .ok output := by
  cases outcome <;> simp [failure?]

theorem failure?_forM (step : Input → Except Failure Unit) (inputs : List Input) :
    failure? (inputs.forM step) = inputs.findSome? fun input => failure? (step input) := by
  induction inputs with
  | nil => rfl
  | cons input inputs ih =>
      rw [List.findSome?_cons, ← ih]
      show failure? (step input >>= fun _ => inputs.forM step) = _
      cases step input with
      | error failure => rfl
      | ok output => rfl

theorem forM_eq_ok_iff {step : Input → Except Failure Unit} {inputs : List Input} :
    inputs.forM step = .ok () ↔ ∀ input ∈ inputs, step input = .ok () := by
  induction inputs with
  | nil => simp [pure_eq_ok_iff]
  | cons input inputs ih =>
      rw [List.forall_mem_cons, ← ih]
      show (step input >>= fun _ => inputs.forM step) = .ok () ↔ _
      rw [bind_eq_ok_iff]
      constructor
      · rintro ⟨⟨⟩, taken, others⟩
        exact ⟨taken, others⟩
      · rintro ⟨taken, others⟩
        exact ⟨(), taken, others⟩

/-- The first failure is that of a step which only successful steps come before. -/
theorem findSome?_failure?_eq_some_iff {step : Input → Except Failure Output}
    {inputs : List Input} {failure : Failure} :
    (inputs.findSome? fun input => failure? (step input)) = some failure ↔
      ∃ before input after, inputs = before ++ input :: after ∧
        (∀ earlier ∈ before, ∃ output, step earlier = .ok output) ∧
        step input = .error failure := by
  rw [List.findSome?_eq_some_iff]
  simp only [failure?_eq_some_iff, failure?_eq_none_iff]
  constructor
  · rintro ⟨before, input, after, inputsEq, fails, succeed⟩
    exact ⟨before, input, after, inputsEq, succeed, fails⟩
  · rintro ⟨before, input, after, inputsEq, succeed, fails⟩
    exact ⟨before, input, after, inputsEq, fails, succeed⟩

theorem mapM_eq_error_iff {step : Input → Except Failure Output} {inputs : List Input}
    {failure : Failure} :
    inputs.mapM step = .error failure ↔
      ∃ before input after, inputs = before ++ input :: after ∧
        (∀ earlier ∈ before, ∃ output, step earlier = .ok output) ∧
        step input = .error failure := by
  rw [← failure?_eq_some_iff, failure?_mapM, findSome?_failure?_eq_some_iff]

/-- Steps that lead over one that fails do fail, with its failure or with that of an
earlier step. -/
theorem exists_mapM_eq_error {step : Input → Except Failure Output} {input : Input}
    {failure : Failure} (fails : step input = .error failure) (before after : List Input) :
    ∃ first, (before ++ input :: after).mapM step = .error first ∧
      (first = failure ∨ ∃ earlier ∈ before, step earlier = .error first) := by
  induction before with
  | nil =>
      refine ⟨failure, ?_, .inl rfl⟩
      rw [List.nil_append, List.mapM_cons, fails]
      rfl
  | cons earlier before ih =>
      rw [List.cons_append, List.mapM_cons]
      cases outcome : step earlier with
      | error first => exact ⟨first, rfl, .inr ⟨earlier, by simp, outcome⟩⟩
      | ok output =>
          obtain ⟨first, failed, origin⟩ := ih
          refine ⟨first, ?_, ?_⟩
          · rw [failed]
            rfl
          · rcases origin with isFailure | ⟨other, member, otherFails⟩
            · exact .inl isFailure
            · exact .inr ⟨other, List.mem_cons_of_mem earlier member, otherFails⟩

theorem forM_eq_error_iff {step : Input → Except Failure Unit} {inputs : List Input}
    {failure : Failure} :
    inputs.forM step = .error failure ↔
      ∃ before input after, inputs = before ++ input :: after ∧
        (∀ earlier ∈ before, ∃ output, step earlier = .ok output) ∧
        step input = .error failure := by
  rw [← failure?_eq_some_iff, failure?_forM, findSome?_failure?_eq_some_iff]

/-- Either all steps succeed or there is a first one that fails. -/
theorem forall_eq_ok_or_exists_eq_error (step : Input → Except Failure Output)
    (inputs : List Input) :
    (∀ input ∈ inputs, ∃ output, step input = .ok output) ∨
      ∃ before input after failure, inputs = before ++ input :: after ∧
        (∀ earlier ∈ before, ∃ output, step earlier = .ok output) ∧
        step input = .error failure := by
  cases search : inputs.findSome? fun input => failure? (step input) with
  | none =>
      left
      intro input member
      exact failure?_eq_none_iff.mp (List.findSome?_eq_none_iff.mp search input member)
  | some failure =>
      right
      obtain ⟨before, input, after, split⟩ := findSome?_failure?_eq_some_iff.mp search
      exact ⟨before, input, after, failure, split⟩

/-- A search that can find one thing only finds it as soon as it can be found. -/
theorem findSome?_eq_some_of_unique {test : Input → Option Output} {inputs : List Input}
    {output : Output} (unique : ∀ input ∈ inputs, ∀ found ∈ test input, found = output)
    (reached : ∃ input ∈ inputs, test input = some output) :
    inputs.findSome? test = some output := by
  obtain ⟨input, member, found⟩ := reached
  have isSome : (inputs.findSome? test).isSome :=
    List.findSome?_isSome_iff.mpr ⟨input, member, by rw [found]; rfl⟩
  obtain ⟨result, resultEq⟩ := Option.isSome_iff_exists.mp isSome
  obtain ⟨other, otherMember, otherFound⟩ := List.exists_of_findSome?_eq_some resultEq
  rw [resultEq, unique other otherMember result otherFound]

theorem findSome?_ite (marked : Input → Bool) (output? : Option Output)
    (inputs : List Input) :
    (inputs.findSome? fun input => if marked input then output? else none) =
      if inputs.any marked then output? else none := by
  induction inputs with
  | nil => rfl
  | cons input inputs ih =>
      rw [List.findSome?_cons, List.any_cons, ih]
      cases marked input with
      | true => cases output? <;> simp
      | false => simp

/-- A search along the positions of a list finds what stands at the first
position that passes. -/
theorem findSome?_zipIdx_eq_some_iff {test : Input × Nat → Option Output}
    {inputs : List Input} {start : Nat} {output : Output} :
    (inputs.zipIdx start).findSome? test = some output ↔
      ∃ (index : Nat) (input : Input), inputs[index]? = some input ∧
        test (input, start + index) = some output ∧
          ∀ earlier < index, ∀ other, inputs[earlier]? = some other →
            test (other, start + earlier) = none := by
  induction inputs generalizing start with
  | nil => simp
  | cons first others ih =>
      rw [List.zipIdx_cons, List.findSome?_cons, ← Nat.or_exists_add_one]
      simp only [Nat.forall_lt_succ_left, List.getElem?_cons_zero, List.getElem?_cons_succ]
      cases tested : test (first, start) with
      | some found => simp [tested]
      | none => simp [tested, ih, Nat.add_assoc, Nat.add_comm 1]

end Telemetry
