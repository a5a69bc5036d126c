import Telemetry.Proofs.Report.Run
import Telemetry.Report.Set

/-!
# Reports in a set

The reports of a set are updated in order, and the first failure ends an update.
Apart from that they do not touch one another: in a run of a set, each report goes
through what it would go through on its own, given the updates in which every
report before it succeeded.
-/

namespace Telemetry

variable {α : Type}

/-- What goes into one update of a set: the snapshot, and the positions of the reports
whose sinks refuse everything at that time. -/
structure SetUpdateRequest (α : Type) where
  isRefused : Nat → Bool
  snapshot : Snapshot α

namespace SetUpdateRequest

/-- The part of the request that concerns the report at a position. -/
def forReport (request : SetUpdateRequest α) (index : Nat) : UpdateRequest α where
  isRefused := request.isRefused index
  snapshot := request.snapshot

end SetUpdateRequest

namespace ReportSet

variable [Scalar α]

/-! ## One update -/

section Update

variable {σ : Type} [Sink σ Unit] {snapshot : Snapshot α} {report : Report α σ}
  {reports before after : List (Report α σ)}

/-- An update of the report alone succeeds. -/
def Succeeds (snapshot : Snapshot α) (report : Report α σ) : Prop :=
  ∃ emitted, (report.update snapshot ()).outcome = .ok emitted

instance (snapshot : Snapshot α) (report : Report α σ) : Decidable (Succeeds snapshot report) :=
  match outcomeEq : (report.update snapshot ()).outcome with
  | .ok emitted => .isTrue ⟨emitted, outcomeEq⟩
  | .error cause => .isFalse fun ⟨emitted, succeeds⟩ => by
      rw [outcomeEq] at succeeds
      exact absurd succeeds (by simp)

/-- An update of the report alone writes a line. -/
def emits (snapshot : Snapshot α) (report : Report α σ) : Bool :=
  (report.update snapshot ()).outcome matches .ok true

/-- What an update of the report alone leaves. -/
def updated (snapshot : Snapshot α) (report : Report α σ) : Report α σ :=
  (report.update snapshot ()).state

theorem not_succeeds_of_error {cause : ReportError}
    (fails : (report.update snapshot ()).outcome = .error cause) :
    ¬ Succeeds snapshot report := by
  rintro ⟨emitted, succeeds⟩
  rw [fails] at succeeds
  exact absurd succeeds (by simp)

theorem updated_of_error {cause : ReportError}
    (fails : (report.update snapshot ()).outcome = .error cause) :
    updated snapshot report = report := by
  revert fails
  unfold updated Report.update
  split
  · simp
  · split
    · exact fun _ => rfl
    · split
      · exact fun _ => rfl
      · simp

theorem updateAll_cons_of_error {cause : ReportError}
    (fails : (report.update snapshot ()).outcome = .error cause) (others : List (Report α σ)) :
    updateAll snapshot () (report :: others) = ⟨.error cause, report :: others, ()⟩ := by
  have unchanged := updated_of_error fails
  unfold updated at unchanged
  rw [updateAll]
  simp only [fails, unchanged]

theorem updateAll_cons_of_succeeds (succeeds : Succeeds snapshot report)
    (others : List (Report α σ)) :
    updateAll snapshot () (report :: others) =
      { outcome := (updateAll snapshot () others).outcome.map fun count =>
          if emits snapshot report then count + 1 else count
        state := updated snapshot report :: (updateAll snapshot () others).state
        shared := () } := by
  obtain ⟨emitted, outcomeEq⟩ := succeeds
  have emitsEq : emits snapshot report = emitted := by
    unfold emits
    rw [outcomeEq]
    cases emitted <;> rfl
  rw [updateAll, emitsEq]
  simp only [outcomeEq]
  rfl

theorem updateAll_of_succeeds (succeed : ∀ report ∈ reports, Succeeds snapshot report) :
    updateAll snapshot () reports =
      ⟨.ok (reports.countP (emits snapshot)), reports.map (updated snapshot), ()⟩ := by
  induction reports with
  | nil => rfl
  | cons report others ih =>
      rw [List.forall_mem_cons] at succeed
      rw [updateAll_cons_of_succeeds succeed.1, ih succeed.2, List.countP_cons]
      cases emits snapshot report <;> rfl

theorem updateAll_append_of_error {cause : ReportError}
    (succeed : ∀ earlier ∈ before, Succeeds snapshot earlier)
    (fails : (report.update snapshot ()).outcome = .error cause) :
    updateAll snapshot () (before ++ report :: after) =
      ⟨.error cause, before.map (updated snapshot) ++ report :: after, ()⟩ := by
  induction before with
  | nil => exact updateAll_cons_of_error fails after
  | cons first before ih =>
      rw [List.forall_mem_cons] at succeed
      rw [List.cons_append, updateAll_cons_of_succeeds succeed.1, ih succeed.2]
      rfl

variable (set : ReportSet α σ) (snapshot)

theorem outcome_update_eq_ok_iff (count : Nat) :
    (set.update snapshot ()).outcome = .ok count ↔
      (∀ report ∈ set.reports, Succeeds snapshot report) ∧
        count = set.reports.countP (emits snapshot) := by
  unfold update
  rcases forall_eq_ok_or_exists_eq_error
      (fun report => (Report.update report snapshot ()).outcome) set.reports with
    succeed | ⟨before, report, after, cause, reportsEq, succeed, fails⟩
  · rw [updateAll_of_succeeds succeed]
    constructor
    · intro outcomeEq
      exact ⟨succeed, (Except.ok.inj outcomeEq).symm⟩
    · rintro ⟨-, rfl⟩
      rfl
  · rw [reportsEq, updateAll_append_of_error succeed fails]
    constructor
    · intro outcomeEq
      exact absurd outcomeEq (by simp)
    · rintro ⟨allSucceed, -⟩
      exact absurd (allSucceed report (by simp)) (not_succeeds_of_error fails)

theorem outcome_update_eq_error_iff (cause : ReportError) :
    (set.update snapshot ()).outcome = .error cause ↔
      ∃ before report after, set.reports = before ++ report :: after ∧
        (∀ earlier ∈ before, Succeeds snapshot earlier) ∧
        (report.update snapshot ()).outcome = .error cause ∧
        (set.update snapshot ()).state.reports =
          before.map (updated snapshot) ++ report :: after := by
  unfold update
  rcases forall_eq_ok_or_exists_eq_error
      (fun report => (Report.update report snapshot ()).outcome) set.reports with
    succeed | ⟨before, report, after, first, reportsEq, succeed, fails⟩
  · rw [updateAll_of_succeeds succeed]
    constructor
    · intro outcomeEq
      exact absurd outcomeEq (by simp)
    · rintro ⟨before, report, after, reportsEq, -, fails, -⟩
      exact absurd (succeed report (by simp [reportsEq])) (not_succeeds_of_error fails)
  · constructor
    · intro outcomeEq
      rw [reportsEq, updateAll_append_of_error succeed fails] at outcomeEq
      obtain rfl := Except.error.inj outcomeEq
      refine ⟨before, report, after, reportsEq, succeed, fails, ?_⟩
      rw [reportsEq, updateAll_append_of_error succeed fails]
    · rintro ⟨itsBefore, itsReport, itsAfter, itsReportsEq, itsSucceed, itsFails, -⟩
      rw [itsReportsEq, updateAll_append_of_error itsSucceed itsFails]

/-- A report is updated if all reports before it succeed, and otherwise left alone. -/
theorem getElem?_reports_update (index : Nat) :
    (set.update snapshot ()).state.reports[index]? =
      set.reports[index]?.map fun report =>
        if ∀ earlier ∈ set.reports.take index, Succeeds snapshot earlier then
          updated snapshot report
        else report := by
  obtain ⟨reports⟩ := set
  show (updateAll snapshot () reports).state[index]? = _
  induction reports generalizing index with
  | nil => rfl
  | cons first others ih =>
      by_cases succeeds : Succeeds snapshot first
      · rw [updateAll_cons_of_succeeds succeeds]
        cases index with
        | zero => simp
        | succ index => simp [ih index, succeeds]
      · obtain ⟨cause, fails⟩ : ∃ cause, (first.update snapshot ()).outcome = .error cause := by
          cases outcomeEq : (first.update snapshot ()).outcome with
          | ok emitted => exact absurd ⟨emitted, outcomeEq⟩ succeeds
          | error cause => exact ⟨cause, rfl⟩
        rw [updateAll_cons_of_error fails]
        cases index with
        | zero => simp [updated_of_error fails]
        | succ index => simp [succeeds]

end Update

/-! ## Runs -/

/-- The set with the sinks of its reports broken or mended. -/
def withRefusals (isRefused : Nat → Bool) (set : ReportSet α MemorySink) :
    ReportSet α MemorySink where
  reports := set.reports.mapIdx fun index report => report.withRefusal (isRefused index)

/-- Update a set while its sinks are in given conditions. -/
def respond (set : ReportSet α MemorySink) (request : SetUpdateRequest α) :
    Attempt (ReportSet α MemorySink) Unit Nat :=
  (set.withRefusals request.isRefused).update request.snapshot ()

def afterRun (set : ReportSet α MemorySink) : List (SetUpdateRequest α) → ReportSet α MemorySink
  | [] => set
  | request :: requests => (set.respond request).state.afterRun requests

/-- In an update of the set, all reports before a position succeed. -/
def Reaches (index : Nat) (set : ReportSet α MemorySink) (request : SetUpdateRequest α) : Prop :=
  ∀ earlier ∈ (set.withRefusals request.isRefused).reports.take index,
    Succeeds request.snapshot earlier

instance (index : Nat) (set : ReportSet α MemorySink) (request : SetUpdateRequest α) :
    Decidable (Reaches index set request) :=
  inferInstanceAs (Decidable (∀ earlier ∈ List.take _ _, _))

/-- The updates of a run in which all reports before a position succeed, as far as
they concern the report at that position. -/
def requestsReaching (index : Nat) (set : ReportSet α MemorySink) :
    List (SetUpdateRequest α) → List (UpdateRequest α)
  | [] => []
  | request :: requests =>
      let others := requestsReaching index (set.respond request).state requests
      if Reaches index set request then request.forReport index :: others else others

theorem getElem?_reports_respond (set : ReportSet α MemorySink) (request : SetUpdateRequest α)
    (index : Nat) :
    (set.respond request).state.reports[index]? =
      set.reports[index]?.map fun report =>
        if Reaches index set request then (report.respond (request.forReport index)).state
        else report.withRefusal (request.isRefused index) := by
  unfold respond
  rw [getElem?_reports_update]
  simp only [withRefusals, List.getElem?_mapIdx, Option.map_map]
  rfl

theorem exists_getElem?_afterRun {set : ReportSet α MemorySink} {index : Nat}
    {report : Report α MemorySink} (reportAt : set.reports[index]? = some report)
    (requests : List (SetUpdateRequest α)) (isRefused : Bool) :
    ∃ final, (set.afterRun requests).reports[index]? = some final ∧
      final.withRefusal isRefused =
        (report.run (set.requestsReaching index requests)).final.withRefusal isRefused := by
  induction requests generalizing set report with
  | nil => exact ⟨report, reportAt, rfl⟩
  | cons request requests ih =>
      have reportAfter := getElem?_reports_respond set request index
      rw [reportAt, Option.map_some] at reportAfter
      obtain ⟨final, finalAt, finalEq⟩ := ih reportAfter
      refine ⟨final, finalAt, ?_⟩
      rw [finalEq, requestsReaching]
      by_cases reached : Reaches index set request
      · simp only [reached, if_true]
        rfl
      · simp only [reached, if_false]
        exact report.run_withRefusal _ _ _

/-- The reports of a set do not touch one another.  Each ends a run as it would end
alone, given the updates that reach it.  A single update succeeds exactly when every
report does, and otherwise has the error of the first report that fails: the reports
before it are updated, and the others, itself included, stay as they were. -/
theorem afterRun_isolates (set : ReportSet α MemorySink) :
    (∀ (requests : List (SetUpdateRequest α)) (index : Nat) (report : Report α MemorySink),
      set.reports[index]? = some report →
        ∃ final, (set.afterRun requests).reports[index]? = some final ∧
          final.sink.contents =
            (report.run (set.requestsReaching index requests)).final.sink.contents ∧
          final.lastEmission? =
            (report.run (set.requestsReaching index requests)).final.lastEmission?) ∧
    (∀ (snapshot : Snapshot α) (count : Nat),
      (set.update snapshot ()).outcome = .ok count ↔
        (∀ report ∈ set.reports, Succeeds snapshot report) ∧
          count = set.reports.countP (emits snapshot)) ∧
    ∀ (snapshot : Snapshot α) (cause : ReportError),
      (set.update snapshot ()).outcome = .error cause ↔
        ∃ before report after, set.reports = before ++ report :: after ∧
          (∀ earlier ∈ before, Succeeds snapshot earlier) ∧
          (report.update snapshot ()).outcome = .error cause ∧
          (set.update snapshot ()).state.reports =
            before.map (updated snapshot) ++ report :: after := by
  refine ⟨fun requests index report reportAt => ?_, set.outcome_update_eq_ok_iff,
    set.outcome_update_eq_error_iff⟩
  obtain ⟨final, finalAt, finalEq⟩ := exists_getElem?_afterRun reportAt requests false
  have contentsEq := congrArg (·.sink.contents) finalEq
  have lastEmissionEq := congrArg (·.lastEmission?) finalEq
  exact ⟨final, finalAt, contentsEq, lastEmissionEq⟩

end ReportSet

end Telemetry
