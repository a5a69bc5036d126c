import Telemetry.Proofs.Disk.Creation
import Telemetry.Proofs.Report.Run
import Telemetry.Report.Builder

/-!
# Reports that are built together

A builder first reads all configuration files, then checks all format strings and
opens files only at the end.  The earliest phase that fails decides what is reported,
and within a phase the first mistake does.  A mistake of the first two phases leaves
all files alone, and a file that cannot be made leaves all files alone but those of
the reports before it.
-/

namespace Telemetry

variable {α : Type}

/-- What a builder can be given. -/
inductive Addition (α : Type) where
  | config (path : String)
  | report (spec : ReportSpec α)

namespace Addition

def path? : Addition α → Option String
  | .config path => some path
  | .report _ => none

def spec? : Addition α → Option (ReportSpec α)
  | .config _ => none
  | .report spec => some spec

end Addition

/-- The definition that a report was made from. -/
def Report.spec {σ : Type} (report : Report α σ) : ReportSpec α where
  destination := report.destination
  interval := report.interval
  format := report.format

namespace Destination

/-- The destination is a file that is made at the location. -/
def LiesAt (disk : Disk) (location : Location) : Destination → Prop
  | .console => False
  | .file path => ∃ created, disk.create path = .ok (location, created)

/-- The destination is the console, or a file that can be made. -/
def CanOpen (disk : Disk) (destination : Destination) : Prop :=
  destination = .console ∨ ∃ location, destination.LiesAt disk location

section Changes

variable {disk later : Disk} {changed : Location → Prop} {destination : Destination}

theorem liesAt_of_changesOnly (changes : disk.ChangesOnly changed later) {location : Location}
    (lies : destination.LiesAt disk location) : destination.LiesAt later location := by
  cases destination with
  | console => exact lies
  | file path =>
      obtain ⟨created, made⟩ := lies
      exact ⟨_, changes.create_eq made⟩

/-- What can be opened does not depend on other files. -/
theorem canOpen_of_changesOnly (changes : disk.ChangesOnly changed later)
    (canOpen : destination.CanOpen disk) : destination.CanOpen later := by
  rcases canOpen with isConsole | ⟨location, lies⟩
  · exact .inl isConsole
  · exact .inr ⟨location, liesAt_of_changesOnly changes lies⟩

theorem exists_eq_file_of_not_canOpen (cannotOpen : ¬ destination.CanOpen disk) :
    ∃ path, destination = .file path := by
  cases destination with
  | console => exact absurd (.inl rfl) cannotOpen
  | file path => exact ⟨path, rfl⟩

end Changes

end Destination

namespace ReportSetBuilder

def add (builder : ReportSetBuilder α) : Addition α → ReportSetBuilder α
  | .config path => builder.addConfig path
  | .report spec => builder.addReport spec

/-- A builder that was given some things in order. -/
def ofAdditions (additions : List (Addition α)) : ReportSetBuilder α :=
  additions.foldl add empty

theorem foldl_add (builder : ReportSetBuilder α) (additions : List (Addition α)) :
    additions.foldl add builder =
      { configs := builder.configs ++ additions.filterMap Addition.path?
        specs := builder.specs ++ additions.filterMap Addition.spec? } := by
  induction additions generalizing builder with
  | nil => simp
  | cons addition additions ih =>
      rw [List.foldl_cons, ih]
      cases addition with
      | config path => simp [add, addConfig, Addition.path?, Addition.spec?, List.filterMap_cons]
      | report spec => simp [add, addReport, Addition.path?, Addition.spec?, List.filterMap_cons]

theorem ofAdditions_eq (additions : List (Addition α)) :
    ofAdditions additions =
      ⟨additions.filterMap Addition.path?, additions.filterMap Addition.spec?⟩ := by
  rw [ofAdditions, foldl_add]
  rfl

/-! ## Checking formats -/

theorem checkFormat_eq_ok_iff {spec : ReportSpec α} :
    checkFormat spec = .ok () ↔ ∃ template, Template.parse spec.format = .ok template := by
  unfold checkFormat
  cases Template.parse spec.format <;> simp

theorem checkFormat_eq_error_iff {spec : ReportSpec α} {cause : ReportError} :
    checkFormat spec = .error cause ↔
      ∃ mistake, Template.parse spec.format = .error mistake ∧
        cause = .invalidFormat spec.destination mistake := by
  unfold checkFormat
  cases Template.parse spec.format <;> simp [eq_comm]

/-! ## Opening reports -/

variable [Scalar α] {spec : ReportSpec α} {host : Host} {timestamp : String}

theorem openReport_of_error {path : String} {cause : IoError}
    (isFile : spec.destination = .file path) (failed : host.disk.create path = .error cause) :
    openReport timestamp spec host = ⟨.error (.unopened path cause), none, host⟩ := by
  unfold openReport openSink
  rw [isFile]
  dsimp only
  rw [failed]

/-- Opening a report changes its own file and nothing else. -/
theorem exists_openReport (timestamp : String)
    (accepted : ∃ template, Template.parse spec.format = .ok template)
    (canOpen : spec.destination.CanOpen host.disk) :
    ∃ report opened, openReport timestamp spec host = ⟨.ok (), some report, opened⟩ ∧
      report.spec = spec ∧ opened.console = host.console ∧
      host.disk.ChangesOnly (spec.destination.LiesAt host.disk) opened.disk := by
  obtain ⟨template, accepted⟩ := accepted
  obtain ⟨destination, interval, format⟩ := spec
  unfold openReport openSink
  rcases canOpen with isConsole | ⟨location, lies⟩
  · dsimp only at isConsole ⊢
    subst isConsole
    dsimp only
    rw [Report.make_eq_ok _ _ accepted]
    exact ⟨_, host, rfl, rfl, rfl, .refl _ _⟩
  · cases destination with
    | console => exact absurd lies id
    | file path =>
        obtain ⟨created, made⟩ := lies
        dsimp only
        rw [made]
        dsimp only
        rw [Report.make_eq_ok _ _ accepted]
        refine ⟨_, _, rfl, rfl, rfl, ?_⟩
        refine (Disk.changesOnly_create made 0 _).mono ?_
        rintro changed rfl
        exact ⟨created, made⟩

/-- Reports that can be opened on their own can be opened one after the other, and
nothing changes but their files. -/
theorem exists_openAll (timestamp : String) {specs : List (ReportSpec α)}
    (accepted : ∀ spec ∈ specs, ∃ template, Template.parse spec.format = .ok template)
    (canOpen : ∀ spec ∈ specs, spec.destination.CanOpen host.disk) :
    ∃ reports opened, openAll timestamp host specs = ⟨.ok (), reports, opened⟩ ∧
      reports.map Report.spec = specs ∧ opened.console = host.console ∧
      host.disk.ChangesOnly
        (fun location => ∃ spec ∈ specs, spec.destination.LiesAt host.disk location)
        opened.disk := by
  induction specs generalizing host with
  | nil => exact ⟨[], host, rfl, rfl, rfl, .refl _ _⟩
  | cons spec specs ih =>
      rw [List.forall_mem_cons] at accepted canOpen
      obtain ⟨report, first, openReportEq, reportEq, consoleEq, changes⟩ :=
        exists_openReport timestamp accepted.1 canOpen.1
      have canStillOpen : ∀ spec ∈ specs, spec.destination.CanOpen first.disk :=
        fun other member => Destination.canOpen_of_changesOnly changes (canOpen.2 other member)
      obtain ⟨reports, opened, openAllEq, reportsEq, stillConsoleEq, moreChanges⟩ :=
        ih accepted.2 canStillOpen
      refine ⟨report :: reports, opened, ?_, ?_, ?_, ?_⟩
      · rw [openAll, openReportEq]
        dsimp only
        rw [openAllEq]
        rfl
      · rw [List.map_cons, reportEq, reportsEq]
      · rw [stillConsoleEq, consoleEq]
      · refine (changes.mono ?_).trans (moreChanges.mono ?_)
        · intro location lies
          exact ⟨spec, List.mem_cons_self, lies⟩
        · rintro location ⟨other, member, lies⟩
          exact ⟨other, List.mem_cons_of_mem _ member,
            Destination.liesAt_of_changesOnly changes.symm lies⟩

theorem openAll_append {before : List (ReportSpec α)}
    (succeeds : (openAll timestamp host before).outcome = .ok ()) (after : List (ReportSpec α)) :
    openAll timestamp host (before ++ after) =
      let first := openAll timestamp host before
      let rest := openAll timestamp first.shared after
      { outcome := rest.outcome, state := first.state ++ rest.state, shared := rest.shared } := by
  induction before generalizing host with
  | nil => rfl
  | cons spec before ih =>
      rw [List.cons_append, openAll, openAll]
      rw [openAll] at succeeds
      dsimp only at succeeds ⊢
      cases opened : (openReport timestamp spec host).outcome with
      | error cause =>
          rw [opened] at succeeds
          exact absurd succeeds (by simp)
      | ok _ =>
          rw [opened] at succeeds
          dsimp only at succeeds ⊢
          rw [ih succeeds]
          dsimp only
          rw [List.append_assoc]

theorem openAll_cons_of_error {path : String} {cause : IoError}
    (isFile : spec.destination = .file path) (failed : host.disk.create path = .error cause)
    (after : List (ReportSpec α)) :
    openAll timestamp host (spec :: after) = ⟨.error (.unopened path cause), [], host⟩ := by
  rw [openAll, openReport_of_error isFile failed]
  rfl

/-! ## Building -/

section Build

variable {builder : ReportSetBuilder α} {lists : List (List (ReportSpec α))}
  {specs before after : List (ReportSpec α)}

theorem allSpecs_eq (loaded : builder.configs.mapM (ReportSpec.loadList host.disk) = .ok lists) :
    builder.allSpecs host.disk = .ok (lists.flatten ++ builder.specs) := by
  unfold allSpecs
  rw [loaded]
  rfl

theorem build_of_unloaded {cause : ReportError}
    (failed : (builder.configs.mapM (ReportSpec.loadList host.disk) :
      Except ReportError (List (List (ReportSpec α)))) = .error cause) :
    builder.build timestamp host = (.error cause, host) := by
  have notCollected : builder.allSpecs host.disk = .error cause := by
    unfold allSpecs
    rw [failed]
    rfl
  unfold build
  rw [notCollected]

theorem build_of_refused {cause : ReportError}
    (collected : builder.allSpecs host.disk = .ok specs)
    (failed : specs.forM checkFormat = .error cause) :
    builder.build timestamp host = (.error cause, host) := by
  unfold build
  rw [collected]
  dsimp only
  rw [failed]

theorem build_of_accepted (collected : builder.allSpecs host.disk = .ok specs)
    (accepted : ∀ spec ∈ specs, ∃ template, Template.parse spec.format = .ok template) :
    builder.build timestamp host =
      ((openAll timestamp host specs).outcome.map fun _ =>
          { reports := (openAll timestamp host specs).state },
        (openAll timestamp host specs).shared) := by
  have allChecked : specs.forM checkFormat = .ok () :=
    forM_eq_ok_iff.mpr fun spec member => checkFormat_eq_ok_iff.mpr (accepted spec member)
  unfold build
  rw [collected]
  dsimp only
  rw [allChecked]

/-- If a file cannot be made, only those of the reports before it are made. -/
theorem build_of_unopened (collected : builder.allSpecs host.disk = .ok (before ++ spec :: after))
    (accepted : ∀ other ∈ before ++ spec :: after,
      ∃ template, Template.parse other.format = .ok template)
    (canOpen : ∀ earlier ∈ before, earlier.destination.CanOpen host.disk)
    (cannotOpen : ¬ spec.destination.CanOpen host.disk) :
    ∃ path cause opened, spec.destination = .file path ∧
      builder.build timestamp host = (.error (.unopened path cause), opened) ∧
      opened.disk.create path = .error cause ∧ opened.console = host.console ∧
      host.disk.ChangesOnly
        (fun location => ∃ earlier ∈ before, earlier.destination.LiesAt host.disk location)
        opened.disk := by
  obtain ⟨path, isFile⟩ := Destination.exists_eq_file_of_not_canOpen cannotOpen
  have acceptedBefore : ∀ earlier ∈ before,
      ∃ template, Template.parse earlier.format = .ok template := by
    intro earlier member
    exact accepted earlier (List.mem_append_left _ member)
  obtain ⟨reports, opened, openAllEq, -, consoleEq, changes⟩ :=
    exists_openAll timestamp acceptedBefore canOpen
  cases made : opened.disk.create path with
  | ok place =>
      have canOpenLater : spec.destination.CanOpen opened.disk := by
        rw [isFile]
        exact .inr ⟨place.1, place.2, made⟩
      exact absurd (Destination.canOpen_of_changesOnly changes.symm canOpenLater) cannotOpen
  | error cause =>
      refine ⟨path, cause, opened, isFile, ?_, made, consoleEq, changes⟩
      have succeeds : (openAll timestamp host before).outcome = .ok () := by rw [openAllEq]
      rw [build_of_accepted collected accepted, openAll_append succeeds, openAllEq]
      dsimp only
      rw [openAll_cons_of_error isFile made]
      rfl

theorem exists_build (collected : builder.allSpecs host.disk = .ok specs)
    (accepted : ∀ spec ∈ specs, ∃ template, Template.parse spec.format = .ok template)
    (canOpen : ∀ spec ∈ specs, spec.destination.CanOpen host.disk) :
    ∃ set opened, builder.build timestamp host = (.ok set, opened) ∧
      set.reports.map Report.spec = specs := by
  obtain ⟨reports, opened, openAllEq, reportsEq, -, -⟩ :=
    exists_openAll timestamp accepted canOpen
  refine ⟨⟨reports⟩, opened, ?_, reportsEq⟩
  rw [build_of_accepted collected accepted, openAllEq]
  rfl

end Build

/-- The first failure of the earliest phase that fails is the one that is reported.
Files are touched in the last phase only, and only the files of the reports before
the one that fails.  Files that have been made do not matter to those that follow, so
it can be told beforehand which one fails. -/
theorem build_reports_first_failure (additions : List (Addition α)) (timestamp : String)
    (host : Host) :
    let builder := ofAdditions additions
    let paths := additions.filterMap Addition.path?
    let load : String → Except ReportError (List (ReportSpec α)) := ReportSpec.loadList host.disk
    (∀ before path after cause, paths = before ++ path :: after →
      (∀ earlier ∈ before, ∃ specs, load earlier = .ok specs) → load path = .error cause →
      builder.build timestamp host = (.error cause, host)) ∧
    ∀ lists, paths.mapM load = .ok lists →
      let specs := lists.flatten ++ additions.filterMap Addition.spec?
      builder.allSpecs host.disk = .ok specs ∧
      (∀ before spec after cause, specs = before ++ spec :: after →
        (∀ earlier ∈ before, ∃ template, Template.parse earlier.format = .ok template) →
        Template.parse spec.format = .error cause →
        builder.build timestamp host = (.error (.invalidFormat spec.destination cause), host)) ∧
      ((∀ spec ∈ specs, ∃ template, Template.parse spec.format = .ok template) →
        (∀ before spec after, specs = before ++ spec :: after →
          (∀ earlier ∈ before, earlier.destination.CanOpen host.disk) →
          ¬ spec.destination.CanOpen host.disk →
          ∃ path cause opened, spec.destination = .file path ∧
            builder.build timestamp host = (.error (.unopened path cause), opened) ∧
            opened.disk.create path = .error cause ∧ opened.console = host.console ∧
            host.disk.ChangesOnly
              (fun location =>
                ∃ earlier ∈ before, earlier.destination.LiesAt host.disk location)
              opened.disk) ∧
        ((∀ spec ∈ specs, spec.destination.CanOpen host.disk) →
          ∃ set opened, builder.build timestamp host = (.ok set, opened) ∧
            set.reports.map Report.spec = specs)) := by
  intro builder paths load
  have builderEq : builder = ⟨paths, additions.filterMap Addition.spec?⟩ :=
    ofAdditions_eq additions
  refine ⟨?_, ?_⟩
  · intro before path after cause split loaded failed
    apply build_of_unloaded
    rw [builderEq]
    exact mapM_eq_error_iff.mpr ⟨before, path, after, split, loaded, failed⟩
  intro lists loaded specs
  have collected : builder.allSpecs host.disk = .ok specs := by
    rw [builderEq]
    exact allSpecs_eq loaded
  refine ⟨collected, ?_, ?_⟩
  · intro before spec after cause split accepted failed
    apply build_of_refused collected
    refine forM_eq_error_iff.mpr ⟨before, spec, after, split, ?_, ?_⟩
    · intro earlier member
      exact ⟨(), checkFormat_eq_ok_iff.mpr (accepted earlier member)⟩
    · exact checkFormat_eq_error_iff.mpr ⟨cause, failed, rfl⟩
  intro accepted
  refine ⟨?_, exists_build collected accepted⟩
  intro before spec after split canOpen cannotOpen
  rw [split] at collected accepted
  exact build_of_unopened collected accepted canOpen cannotOpen

/-- The second format is wrong, so the file of the first report stays as it is. -/
example (interval : α) :
    let host : Host := ⟨⟨["home"], [], [(["home", "old.txt"], [65])]⟩, ""⟩
    let builder := (empty.addReport ⟨.file "old.txt", interval, "#st"⟩).addReport
      ⟨.console, interval, "#sq"⟩
    builder.build "" host =
      (.error (.invalidFormat .console (.unknownTag "#sq" 0 .simulation)), host) := by
  cbv

end ReportSetBuilder

end Telemetry
