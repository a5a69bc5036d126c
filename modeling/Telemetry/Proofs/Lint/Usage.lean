import Telemetry.Lint.Explanation
import Telemetry.Proofs.Lint.Tally
import Telemetry.Proofs.Template.Tokens

/-!
# How often value tokens are used

The linter counts the value tokens that it writes anew from the templates.  These counts are
those of the value tokens that stand in the format strings, so that they add up to the
number signs in them.  The table of the counts has one row for each token.
-/

namespace Telemetry

namespace Findings

variable {α : Type}

/-- The format strings that can be read, in the order of their definitions. -/
def acceptedFormats (specs : List (ReportSpec α)) : List String :=
  (specs.map (·.format)).filter fun format => (Template.parse format).isOk

theorem exists_parse_of_mem_acceptedFormats {specs : List (ReportSpec α)} {format : String}
    (member : format ∈ acceptedFormats specs) :
    ∃ template, Template.parse format = .ok template := by
  have accepted := (List.mem_filter.mp member).2
  cases outcome : Template.parse format with
  | ok template => exact ⟨template, rfl⟩
  | error cause => simp [outcome, Except.isOk, Except.toBool] at accepted

/-- The value tokens that are counted are those in the accepted format strings. -/
theorem flatMap_valueTokens_sound (specs : List (ReportSpec α)) :
    ((specs.filterMap sound?).flatMap fun sound => sound.2.valueTokens) =
      ((acceptedFormats specs).flatMap Template.valueLexemes).map Lexeme.spelling := by
  induction specs with
  | nil => rfl
  | cons spec specs ih =>
      unfold acceptedFormats at ih ⊢
      rw [List.map_cons, List.filter_cons]
      cases outcome : Template.parse spec.format with
      | error cause =>
          have unsound : sound? spec = none := by
            rw [sound?, outcome]
            rfl
          rw [List.filterMap_cons_none unsound]
          exact ih
      | ok template =>
          have isSound : sound? spec = some (spec, template) := by
            rw [sound?, outcome]
            rfl
          rw [List.filterMap_cons_some isSound, List.flatMap_cons, ih,
            Template.valueTokens_of_parse outcome]
          exact List.map_append.symm

theorem usage_eq_tally [Scalar α] (specs : List (ReportSpec α)) :
    (ofSpecs specs).usage =
      tally id (((acceptedFormats specs).flatMap Template.valueLexemes).map Lexeme.spelling) :=
  congrArg (tally id) (flatMap_valueTokens_sound specs)

/-- Value tokens are as many as number signs, over all format strings. -/
theorem length_valueLexemes_acceptedFormats (specs : List (ReportSpec α)) :
    ((acceptedFormats specs).flatMap Template.valueLexemes).length =
      ((acceptedFormats specs).map fun format => format.toList.count '#').sum := by
  rw [List.length_flatMap]
  apply congrArg List.sum
  apply List.map_congr_left
  intro format member
  obtain ⟨template, parsed⟩ := exists_parse_of_mem_acceptedFormats member
  exact Template.length_valueLexemes_of_parse parsed

end Findings

namespace Explanation

/-- Rows with higher counts come first, and among those with one count the row of the
smaller token. -/
def ComesBefore (first second : String × Nat) : Prop :=
  second.2 < first.2 ∨ second.2 = first.2 ∧ first.1 < second.1

/-- The comparison by which rows are sorted. -/
def rowLe (first second : String × Nat) : Bool :=
  second.2 < first.2 ∨ second.2 = first.2 ∧ first.1 ≤ second.1

theorem rowLe_trans (first second third : String × Nat) (firstLe : rowLe first second = true)
    (secondLe : rowLe second third = true) : rowLe first third = true := by
  simp only [rowLe, decide_eq_true_eq] at firstLe secondLe ⊢
  rcases firstLe with higher | ⟨same, smaller⟩
  · rcases secondLe with alsoHigher | ⟨alsoSame, -⟩
    · exact .inl (Nat.lt_trans alsoHigher higher)
    · exact .inl (alsoSame ▸ higher)
  · rcases secondLe with higher | ⟨alsoSame, alsoSmaller⟩
    · exact .inl (same ▸ higher)
    · exact .inr ⟨alsoSame.trans same, String.le_trans smaller alsoSmaller⟩

theorem rowLe_total (first second : String × Nat) :
    (rowLe first second || rowLe second first) = true := by
  simp only [rowLe, Bool.or_eq_true, decide_eq_true_eq]
  rcases Nat.lt_trichotomy first.2 second.2 with lower | same | higher
  · exact .inr (.inl lower)
  · rcases String.le_total first.1 second.1 with smaller | greater
    · exact .inl (.inr ⟨same.symm, smaller⟩)
    · exact .inr (.inr ⟨same, greater⟩)
  · exact .inl (.inl higher)

theorem comesBefore_of_rowLe {first second : String × Nat} (firstLe : rowLe first second = true)
    (different : first.1 ≠ second.1) : ComesBefore first second := by
  rcases of_decide_eq_true firstLe with higher | ⟨same, smaller⟩
  · exact .inl higher
  · refine .inr ⟨same, String.not_le.mp fun greater => ?_⟩
    exact different (String.le_antisymm smaller greater)

/-- The table has one row for each token, in order. -/
theorem exists_rows_ofUsage {usage : List (String × Nat)}
    (differ : (usage.map (·.1)).Nodup) :
    ∃ rows : List (String × Nat), ofUsage usage = ["", "=== Tag Usage ===", ""] ++
        rows.map (fun row => "  " ++ entry row.1 (toString row.2)) ∧
      rows.Perm usage ∧ rows.Pairwise ComesBefore := by
  have isPerm : (usage.mergeSort rowLe).Perm usage := List.mergeSort_perm usage rowLe
  have rowsDiffer : ((usage.mergeSort rowLe).map (·.1)).Nodup :=
    (isPerm.map (·.1)).nodup_iff.mpr differ
  have sorted := List.pairwise_mergeSort rowLe_trans rowLe_total usage
  refine ⟨usage.mergeSort rowLe, rfl, isPerm, ?_⟩
  exact sorted.imp₂ (fun _ _ => comesBefore_of_rowLe) (List.pairwise_map.mp rowsDiffer)

end Explanation

/-- The counts of the linter are those of the value tokens in the format strings that can
be read: a token has an entry exactly when it occurs, with the number of times that it
does.  The counts add up to the number signs in these format strings, and the table shows
every entry once, ordered by count and then by token. -/
theorem Findings.usage_ofSpecs_exact {α : Type} [Scalar α] (specs : List (ReportSpec α)) :
    let usage := (ofSpecs specs).usage
    let lexemes := (acceptedFormats specs).flatMap Template.valueLexemes
    (usage.map (·.1)).Nodup ∧
    (∀ token count, (token, count) ∈ usage ↔
      0 < count ∧ (lexemes.filter (·.spelling = token)).length = count) ∧
    (usage.map (·.2)).sum =
      ((acceptedFormats specs).map fun format => format.toList.count '#').sum ∧
    ∃ rows : List (String × Nat),
      Explanation.ofUsage usage = ["", "=== Tag Usage ===", ""] ++
        rows.map (fun row => "  " ++ Explanation.entry row.1 (toString row.2)) ∧
      rows.Perm usage ∧ rows.Pairwise Explanation.ComesBefore := by
  intro usage lexemes
  have usageEq : usage = tally id (lexemes.map Lexeme.spelling) := usage_eq_tally specs
  have differ : (usage.map (·.1)).Nodup := by
    rw [usageEq]
    exact @nodup_keys_tally _ _ _ id (lexemes.map Lexeme.spelling)
  refine ⟨differ, fun token count => ?_, ?_, Explanation.exists_rows_ofUsage differ⟩
  · have countEq : (lexemes.map Lexeme.spelling).count token =
        (lexemes.filter (·.spelling = token)).length := by
      rw [List.count, List.countP_map, List.countP_eq_length_filter]
      rfl
    rw [usageEq, mem_tally_id_iff, countEq]
  · rw [usageEq, sum_counts_tally, List.length_map]
    exact length_valueLexemes_acceptedFormats specs

end Telemetry
