import Telemetry.Lint.Program
import Telemetry.Proofs.Fallible
import Telemetry.Proofs.Lint.Tally

/-!
# The verdict of the linter

The exit code of the linter tells whether the report definitions that it loaded are
faultless: all of their formats can be read, and no two of them write to one file.  A
file that was named as the target must be loaded.  Files that are met in a folder need
not be.  The linter says on its standard error which of them it could not load, and goes
by the others.
-/

namespace Telemetry

namespace Findings

variable {α : Type}

/-- Report definitions with formats that can be read and with files of their own. -/
structure Faultless (specs : List (ReportSpec α)) : Prop where
  formats : ∀ spec ∈ specs, ∃ template, Template.parse spec.format = .ok template
  files : (specs.filterMap filePath?).Pairwise fun first second =>
    Path.components first ≠ Path.components second

theorem formatError?_eq_none_iff {spec : ReportSpec α} :
    formatError? spec = none ↔ ∃ template, Template.parse spec.format = .ok template := by
  unfold formatError?
  cases Template.parse spec.format with
  | ok template => simp
  | error cause => simp

theorem formatError?_of_error {spec : ReportSpec α} {error : TemplateError}
    (failed : Template.parse spec.format = .error error) :
    formatError? spec = some (.rejectedFormat spec error) := by
  unfold formatError?
  rw [failed]

theorem errors_ofSpecs_eq_nil_iff [Scalar α] {specs : List (ReportSpec α)} :
    (ofSpecs specs).errors = [] ↔ Faultless specs := by
  have formatsIff : specs.filterMap formatError? = [] ↔
      ∀ spec ∈ specs, ∃ template, Template.parse spec.format = .ok template := by
    rw [List.filterMap_eq_nil_iff]
    exact forall₂_congr fun spec _ => formatError?_eq_none_iff
  have filesIff : sharedFiles specs = [] ↔ (specs.filterMap filePath?).Pairwise
      fun first second => Path.components first ≠ Path.components second := by
    rw [sharedFiles, List.map_eq_nil_iff, filter_tally_eq_nil_iff]
  rw [ofSpecs, List.append_eq_nil_iff, formatsIff, filesIff]
  exact ⟨fun ⟨formats, files⟩ => ⟨formats, files⟩, fun faultless => ⟨faultless.1, faultless.2⟩⟩

end Findings

theorem lines_eq_empty_iff {texts : List String} : lines texts = "" ↔ texts = [] := by
  cases texts with
  | nil => simp [lines]
  | cons text texts =>
      simp only [lines, reduceCtorEq, iff_false]
      intro isEmpty
      have noCharacters := congrArg String.toList isEmpty
      simp at noCharacters

namespace Linter

/-- The definitions in a configuration file. -/
def configuration (disk : Disk) (location : Location) :
    Except ReportError (List (ReportSpec Float)) :=
  (disk.readAt location).mapError ReportError.io >>= ReportSpec.listOfRon

/-- The definitions in those configuration files below a folder that can be loaded. -/
def loadable (disk : Disk) (folder : Location) : List (ReportSpec Float) :=
  (configsBelow disk folder).flatMap fun names =>
    (configuration disk (folder ++ names)).toOption.getD []

theorem specs_add (disk : Disk) (loaded : Loaded) (location : Location) (path : String) :
    (loaded.add disk location path).specs =
      loaded.specs ++ (configuration disk location).toOption.getD [] := by
  unfold Loaded.add configuration
  cases (disk.readAt location).mapError ReportError.io >>= ReportSpec.listOfRon (α := Float) with
  | ok specs => rfl
  | error cause => exact (List.append_nil _).symm

theorem failures_add_eq_nil_iff {disk : Disk} {loaded : Loaded} {location : Location}
    {path : String} :
    (loaded.add disk location path).failures = [] ↔
      loaded.failures = [] ∧ ∃ specs, configuration disk location = .ok specs := by
  unfold Loaded.add configuration
  cases (disk.readAt location).mapError ReportError.io >>= ReportSpec.listOfRon (α := Float) with
  | ok specs => simp
  | error cause => simp

section Folders

variable {disk : Disk} {path : String} {folder : Location}

theorem specs_loadFolder : (loadFolder disk path folder).specs = loadable disk folder := by
  have general (locations : List Location) (loaded : Loaded) :
      (locations.foldl (fun loaded names =>
        loaded.add disk (folder ++ names) (names.foldl Path.join path)) loaded).specs =
      loaded.specs ++ locations.flatMap fun names =>
        (configuration disk (folder ++ names)).toOption.getD [] := by
    induction locations generalizing loaded with
    | nil => simp
    | cons names locations ih =>
        rw [List.foldl_cons, ih, specs_add, List.flatMap_cons, List.append_assoc]
  exact general (configsBelow disk folder) _

theorem failures_loadFolder_eq_nil_iff :
    (loadFolder disk path folder).failures = [] ↔
      ∀ names ∈ configsBelow disk folder, ∃ specs,
        configuration disk (folder ++ names) = .ok specs := by
  have general (locations : List Location) (loaded : Loaded) :
      (locations.foldl (fun loaded names =>
        loaded.add disk (folder ++ names) (names.foldl Path.join path)) loaded).failures = [] ↔
      loaded.failures = [] ∧ ∀ names ∈ locations, ∃ specs,
        configuration disk (folder ++ names) = .ok specs := by
    induction locations generalizing loaded with
    | nil => simp
    | cons names locations ih =>
        rw [List.foldl_cons, ih, failures_add_eq_nil_iff, List.forall_mem_cons, and_assoc]
  rw [loadFolder, general, and_iff_right rfl]

end Folders

/-- The argument names what is to be checked, and does not ask for help. -/
def IsTarget (argument : String) : Prop :=
  argument ∉ ["--help", "-h", "--tags"]

instance (argument : String) : Decidable (IsTarget argument) :=
  inferInstanceAs (Decidable (argument ∉ ["--help", "-h", "--tags"]))

section Programs

variable {disk : Disk} {target : String} {options : List String}

theorem run_of_isTarget (isTarget : IsTarget target) :
    run (target :: options) disk = check disk target options := by
  simp only [IsTarget, List.mem_cons, List.not_mem_nil, or_false, not_or] at isTarget
  obtain ⟨notHelp, notShortHelp, notTags⟩ := isTarget
  simp [run, notHelp, notShortHelp, notTags]

theorem check_of_load {loaded : Loaded} (isLoaded : load disk target = .ok loaded) :
    (check disk target options).exitCode =
        (if (Findings.ofSpecs loaded.specs).errors.isEmpty then 0 else 1) ∧
      (check disk target options).standardError = lines loaded.failures := by
  unfold check
  rw [isLoaded]
  exact ⟨rfl, rfl⟩

theorem exitCode_check_of_load {loaded : Loaded} (isLoaded : load disk target = .ok loaded) :
    (check disk target options).exitCode = 0 ↔ Findings.Faultless loaded.specs := by
  rw [(check_of_load isLoaded).1, ← Findings.errors_ofSpecs_eq_nil_iff, ← List.isEmpty_iff]
  split
  · rename_i noErrors
    simp [noErrors]
  · rename_i hasErrors
    simp [hasErrors]

theorem exitCode_check_of_error {cause : ReportError}
    (notLoaded : load disk target = .error cause) :
    (check disk target options).exitCode = 1 := by
  unfold check
  rw [notLoaded]

theorem exitCode_check_eq_zero_or_one :
    (check disk target options).exitCode = 0 ∨ (check disk target options).exitCode = 1 := by
  cases outcome : load disk target with
  | error cause => exact .inr (exitCode_check_of_error outcome)
  | ok loaded =>
      rw [(check_of_load outcome).1]
      split
      · exact .inl rfl
      · exact .inr rfl

theorem exitCode_check_file (isFile : disk.isFile target = true) :
    (check disk target options).exitCode = 0 ↔
      ∃ specs, ReportSpec.loadList (α := Float) disk target = .ok specs ∧
        Findings.Faultless specs := by
  have loadEq : load disk target = (ReportSpec.loadList disk target).map fun specs =>
      { specs := specs, progress := [], failures := [] } := by
    rw [load, if_pos isFile]
  cases read : ReportSpec.loadList (α := Float) disk target with
  | error cause =>
      rw [read] at loadEq
      simp [exitCode_check_of_error loadEq]
  | ok specs =>
      rw [read] at loadEq
      simp [exitCode_check_of_load loadEq]

theorem load_folder {folder : Location} (located : disk.locate target = .ok folder)
    (isFolder : disk.isFolderAt folder = true) :
    load disk target = .ok (loadFolder disk target folder) := by
  simp [load, Disk.isFile, Disk.isFolder, located, isFolder, Except.toOption]

end Programs

/-- The exit code is zero or one.  For a file it is zero exactly when the file can be
loaded and is faultless.  For a folder it is zero exactly when those files below it that
can be loaded are faultless together, while standard error stays empty exactly when all
of them can be loaded. -/
theorem exitCode_judges_what_is_loaded {disk : Disk} {target : String} {options : List String}
    (isTarget : IsTarget target) :
    let output := run (target :: options) disk
    (output.exitCode = 0 ∨ output.exitCode = 1) ∧
    (disk.isFile target = true → (output.exitCode = 0 ↔
      ∃ specs, ReportSpec.loadList (α := Float) disk target = .ok specs ∧
        Findings.Faultless specs)) ∧
    (∀ folder, disk.locate target = .ok folder → disk.isFolderAt folder = true →
      (output.exitCode = 0 ↔ Findings.Faultless (loadable disk folder)) ∧
      (output.standardError = "" ↔ ∀ names ∈ configsBelow disk folder, ∃ specs,
        configuration disk (folder ++ names) = .ok specs)) := by
  dsimp only
  rw [run_of_isTarget isTarget]
  refine ⟨exitCode_check_eq_zero_or_one, exitCode_check_file,
    fun folder located isFolder => ?_⟩
  have isLoaded := load_folder located isFolder
  constructor
  · rw [exitCode_check_of_load isLoaded, specs_loadFolder]
  · rw [(check_of_load isLoaded).2, lines_eq_empty_iff, failures_loadFolder_eq_nil_iff]

theorem exitCode_judges_what_is_loaded_below_configs :
    let disk := Disk.ofTexts ["work"] [("configs/bad.ron", "(")]
    (run ["configs"] disk).exitCode = 0 ↔
      Findings.Faultless (loadable disk ["work", "configs"]) :=
  ((exitCode_judges_what_is_loaded (by decide)).2.2 ["work", "configs"]
    (by with_unfolding_all rfl) (by with_unfolding_all rfl)).1

/-- A configuration that cannot be loaded fails the run when it is the target, but not
when its folder is. -/
theorem exitCode_of_unloadable_config :
    let disk := Disk.ofTexts ["work"] [("configs/bad.ron", "(")]
    disk.locate "configs" = .ok ["work", "configs"] ∧
    disk.isFolderAt ["work", "configs"] = true ∧
    configsBelow disk ["work", "configs"] = [["bad.ron"]] ∧
    configuration disk ["work", "configs", "bad.ron"] = .error .malformedConfig ∧
    (run ["configs"] disk).exitCode = 0 ∧
    (run ["configs/bad.ron"] disk).exitCode = 1 :=
  ⟨by with_unfolding_all rfl, by with_unfolding_all rfl, by with_unfolding_all rfl,
    by with_unfolding_all rfl, by with_unfolding_all rfl, by with_unfolding_all rfl⟩

end Linter

end Telemetry
