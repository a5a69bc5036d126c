import Telemetry.Proofs.Lint.Verdict

/-!
# What the linter reports as an error

The errors are listed in two parts.  First come the definitions with a format string that
cannot be read, in their order and each with its fault.  Then comes every file that
several definitions write to, once, with the number of these definitions, be their format
strings sound or not.

The second part is taken from a tally of the files.
-/

namespace Telemetry

/-- The entry is about a file, however its path is spelled. -/
def LintError.concerns {α : Type} (path : String) : LintError α → Bool
  | .rejectedFormat _ _ => false
  | .sharedFile itsPath _ => Path.components itsPath = Path.components path

namespace Findings

variable {α : Type}

theorem destination_of_filePath? {spec : ReportSpec α} {path : String}
    (found : filePath? spec = some path) : spec.destination = .file path := by
  unfold filePath? at found
  cases destinationEq : spec.destination with
  | console => simp [destinationEq] at found
  | file itsPath => simpa [destinationEq] using found

/-- The definition writes to a file, however its path is spelled. -/
def writesTo (path : String) (spec : ReportSpec α) : Bool :=
  (filePath? spec).any fun itsPath => Path.components itsPath = Path.components path

def writers (path : String) (specs : List (ReportSpec α)) : List (ReportSpec α) :=
  specs.filter (writesTo path)

theorem map_filePath?_writers (path : String) (specs : List (ReportSpec α)) :
    (writers path specs).map filePath? =
      (withKey Path.components (Path.components path) (specs.filterMap filePath?)).map some := by
  induction specs with
  | nil => rfl
  | cons spec specs ih =>
      unfold writers withKey at ih ⊢
      cases itsPath : filePath? spec with
      | none =>
          have elsewhere : ¬ writesTo path spec = true := by simp [writesTo, itsPath]
          rw [List.filter_cons_of_neg elsewhere, List.filterMap_cons_none itsPath, ih]
      | some spelling =>
          rw [List.filterMap_cons_some itsPath]
          by_cases same : Path.components spelling = Path.components path
          · have writes : writesTo path spec = true := by simp [writesTo, itsPath, same]
            rw [List.filter_cons_of_pos writes, List.filter_cons_of_pos (by simpa using same),
              List.map_cons, List.map_cons, ih, itsPath]
          · have elsewhere : ¬ writesTo path spec = true := by simp [writesTo, itsPath, same]
            rw [List.filter_cons_of_neg elsewhere, List.filter_cons_of_neg (by simpa using same),
              ih]

section Shared

variable {path : String} {specs : List (ReportSpec α)}

/-- The entries about a file are those of the tally for its path, if they count several
definitions. -/
theorem filter_concerns_sharedFiles :
    (sharedFiles specs).filter (LintError.concerns path) =
      ((withKey (fun entry => Path.components entry.1) (Path.components path)
        (tally Path.components (specs.filterMap filePath?))).filter (·.2 > 1)).map
          fun entry => .sharedFile entry.1 entry.2 := by
  unfold sharedFiles withKey
  rw [List.filter_map, List.filter_filter, List.filter_filter]
  congr 1
  apply List.filter_congr
  intro entry _
  exact Bool.and_comm _ _

theorem filter_concerns_of_lt (few : (writers path specs).length < 2) :
    (sharedFiles specs).filter (LintError.concerns path) = [] := by
  have lengthEq := congrArg List.length (map_filePath?_writers path specs)
  rw [List.length_map, List.length_map] at lengthEq
  rw [filter_concerns_sharedFiles, withKey_tally, ← lengthEq, List.map_eq_nil_iff,
    List.filter_eq_nil_iff]
  intro entry member
  obtain ⟨first, -, rfl⟩ := Option.map_eq_some_iff.mp (Option.mem_toList.mp member)
  rw [decide_eq_true_eq]
  omega

theorem exists_filter_concerns_of_le (several : 2 ≤ (writers path specs).length) :
    ∃ first spelling, (writers path specs).head? = some first ∧
      first.destination = .file spelling ∧
      (sharedFiles specs).filter (LintError.concerns path) =
        [.sharedFile spelling (writers path specs).length] := by
  have spellingsEq := map_filePath?_writers path specs
  have lengthEq := congrArg List.length spellingsEq
  rw [List.length_map, List.length_map] at lengthEq
  cases writersEq : writers path specs with
  | nil => simp [writersEq] at several
  | cons first others =>
      rw [writersEq] at several lengthEq spellingsEq
      cases sameEq : withKey Path.components (Path.components path) (specs.filterMap filePath?) with
      | nil => simp [sameEq] at spellingsEq
      | cons spelling more =>
          rw [sameEq] at lengthEq spellingsEq
          have itsPath : filePath? first = some spelling := (List.cons.inj spellingsEq).1
          refine ⟨first, spelling, rfl, ?_, ?_⟩
          · exact destination_of_filePath? itsPath
          · have counted : [(spelling, (first :: others).length)].filter (·.2 > 1) =
                [(spelling, (first :: others).length)] := by
              rw [List.filter_eq_self]
              intro entry member
              obtain rfl := List.mem_singleton.mp member
              rw [decide_eq_true_eq]
              omega
            rw [filter_concerns_sharedFiles, withKey_tally, sameEq, ← lengthEq, List.head?_cons,
              Option.map_some, Option.toList_some, counted]
            rfl

end Shared

/-- The format string of the definition cannot be read. -/
def isRejected (spec : ReportSpec α) : Bool :=
  !(Template.parse spec.format).isOk

theorem forall₂_formatErrors (specs : List (ReportSpec α)) :
    List.Forall₂ (fun spec entry => ∃ cause, Template.parse spec.format = .error cause ∧
        entry = .rejectedFormat spec cause)
      (specs.filter isRejected) (specs.filterMap formatError?) := by
  induction specs with
  | nil => exact .nil
  | cons spec specs ih =>
      cases outcome : Template.parse spec.format with
      | ok template =>
          have sound : formatError? spec = none := formatError?_eq_none_iff.mpr ⟨template, outcome⟩
          have accepted : ¬ isRejected spec = true := by
            simp [isRejected, outcome, Except.isOk, Except.toBool]
          rw [List.filter_cons_of_neg accepted, List.filterMap_cons_none sound]
          exact ih
      | error cause =>
          have faulty : formatError? spec = some (.rejectedFormat spec cause) :=
            formatError?_of_error outcome
          have rejected : isRejected spec = true := by
            simp [isRejected, outcome, Except.isOk, Except.toBool]
          rw [List.filter_cons_of_pos rejected, List.filterMap_cons_some faulty]
          exact .cons ⟨cause, outcome, rfl⟩ ih

/-- The errors are one entry for each definition with a format string that cannot be read,
in order, followed by one entry for each file that several definitions write to, with
their number.  There are none exactly when all format strings can be read and no two
definitions write to one file. -/
theorem errors_ofSpecs_exact [Scalar α] (specs : List (ReportSpec α)) :
    (∃ rejected shared : List (LintError α),
      (ofSpecs specs).errors = rejected ++ shared ∧
      List.Forall₂ (fun spec entry => ∃ cause, Template.parse spec.format = .error cause ∧
          entry = .rejectedFormat spec cause)
        (specs.filter isRejected) rejected ∧
      (∀ entry ∈ shared, ∃ path count, entry = .sharedFile path count) ∧
      (∀ path, 2 ≤ (writers path specs).length → ∃ first spelling,
        (writers path specs).head? = some first ∧ first.destination = .file spelling ∧
          shared.filter (LintError.concerns path) =
            [.sharedFile spelling (writers path specs).length]) ∧
      ∀ path, (writers path specs).length < 2 →
        shared.filter (LintError.concerns path) = []) ∧
    ((ofSpecs specs).errors = [] ↔ Faultless specs) := by
  refine ⟨⟨specs.filterMap formatError?, sharedFiles specs, rfl, forall₂_formatErrors specs,
    ?_, fun path => exists_filter_concerns_of_le, fun path => filter_concerns_of_lt⟩,
    errors_ofSpecs_eq_nil_iff⟩
  intro entry member
  obtain ⟨⟨path, count⟩, -, rfl⟩ := List.mem_map.mp member
  exact ⟨path, count, rfl⟩

end Findings

end Telemetry
