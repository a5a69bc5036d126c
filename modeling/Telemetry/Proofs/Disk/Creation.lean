import Telemetry.Disk.Basic
import Telemetry.Proofs.Fallible

/-!
# What making a file changes

Whether a file can be made depends on the folders alone, and making one, or writing
to it, changes nothing but the contents at its location.  So files that are made one
after the other do not get in each other's way.
-/

namespace Telemetry

namespace Disk

variable {disk later : Disk} {location other : Location} {contents : List UInt8}

theorem lookup_map_update (files : List (Location × List UInt8)) :
    (files.map fun (file, old) => (file, if file = location then contents else old)).lookup
        other =
      if other = location then (files.lookup other).map fun _ => contents
      else files.lookup other := by
  induction files with
  | nil => simp
  | cons file files ih =>
      obtain ⟨first, old⟩ := file
      rw [List.map_cons, List.lookup_cons, List.lookup_cons, ih]
      by_cases isFirst : other = first
      · subst isFirst
        by_cases isWritten : other = location <;> simp [isWritten]
      · rw [beq_eq_false_iff_ne.mpr isFirst]

@[simp]
theorem contents?_put (disk : Disk) (location : Location) (contents : List UInt8)
    (other : Location) :
    (disk.put location contents).contents? other =
      if other = location then some contents else disk.contents? other := by
  unfold put contents?
  dsimp only
  split
  · rename_i isSome
    rw [lookup_map_update]
    split
    · rename_i isWritten
      subst isWritten
      obtain ⟨old, isOld⟩ := Option.isSome_iff_exists.mp isSome
      rw [isOld, Option.map_some]
    · rfl
  · rename_i isNew
    rw [List.lookup_append]
    split
    · rename_i isWritten
      subst isWritten
      rw [Option.not_isSome_iff_eq_none.mp isNew]
      simp
    · rename_i isOther
      rw [List.lookup_cons, beq_eq_false_iff_ne.mpr isOther]
      exact Option.or_none

theorem isFolderAt_iff :
    disk.isFolderAt location = true ↔
      (∃ folder ∈ disk.workingFolder :: disk.folders, location <+: folder) ∨
        ∃ file ∈ disk.files, location.length < file.1.length ∧ location <+: file.1 := by
  unfold isFolderAt
  simp only [Bool.or_eq_true, List.any_eq_true, List.isPrefixOf_iff_prefix, decide_eq_true_eq]

theorem isFolderAt_of_isPrefix (isPrefix : location <+: other)
    (isFolder : disk.isFolderAt other = true) : disk.isFolderAt location = true := by
  rw [isFolderAt_iff] at isFolder ⊢
  rcases isFolder with ⟨folder, known, below⟩ | ⟨file, held, shorter, below⟩
  · exact .inl ⟨folder, known, isPrefix.trans below⟩
  · exact .inr ⟨file, held, Nat.lt_of_le_of_lt isPrefix.length_le shorter, isPrefix.trans below⟩

/-- A file that lies in a folder makes no new folders. -/
theorem isFolderAt_put {folder : Location} (isFolder : disk.isFolderAt folder = true)
    (name : String) (contents : List UInt8) (other : Location) :
    (disk.put (folder ++ [name]) contents).isFolderAt other = disk.isFolderAt other := by
  unfold put isFolderAt
  dsimp only
  split
  · rw [List.any_map]
    rfl
  · rw [List.any_append, ← Bool.or_assoc, Bool.or_eq_left_iff_imp]
    intro isAbove
    rw [List.any_cons, List.any_nil, Bool.or_false, decide_eq_true_eq,
      List.isPrefixOf_iff_prefix, List.prefix_concat_iff] at isAbove
    obtain ⟨shorter, rfl | below⟩ := isAbove
    · exact absurd shorter (Nat.lt_irrefl _)
    · exact isFolderAt_of_isPrefix below isFolder

/-! ## Disks that differ in some files -/

/-- The same folders on both disks, and the same files but for some locations. -/
structure ChangesOnly (changed : Location → Prop) (disk later : Disk) : Prop where
  workingFolder_eq : later.workingFolder = disk.workingFolder
  isFolderAt_eq : ∀ location, later.isFolderAt location = disk.isFolderAt location
  contents?_eq :
    ∀ location, ¬ changed location → later.contents? location = disk.contents? location

namespace ChangesOnly

variable {changed alsoChanged : Location → Prop} {last : Disk}

theorem refl (changed : Location → Prop) (disk : Disk) : ChangesOnly changed disk disk where
  workingFolder_eq := rfl
  isFolderAt_eq _ := rfl
  contents?_eq _ _ := rfl

theorem symm (changes : ChangesOnly changed disk later) : ChangesOnly changed later disk where
  workingFolder_eq := changes.workingFolder_eq.symm
  isFolderAt_eq location := (changes.isFolderAt_eq location).symm
  contents?_eq location unchanged := (changes.contents?_eq location unchanged).symm

theorem trans (changes : ChangesOnly changed disk later) (more : ChangesOnly changed later last) :
    ChangesOnly changed disk last where
  workingFolder_eq := more.workingFolder_eq.trans changes.workingFolder_eq
  isFolderAt_eq location := (more.isFolderAt_eq location).trans (changes.isFolderAt_eq location)
  contents?_eq location unchanged :=
    (more.contents?_eq location unchanged).trans (changes.contents?_eq location unchanged)

theorem mono (changes : ChangesOnly changed disk later)
    (weaken : ∀ location, changed location → alsoChanged location) :
    ChangesOnly alsoChanged disk later where
  workingFolder_eq := changes.workingFolder_eq
  isFolderAt_eq := changes.isFolderAt_eq
  contents?_eq location unchanged := changes.contents?_eq location (mt (weaken location) unchanged)

end ChangesOnly

theorem changesOnly_put {folder : Location} (isFolder : disk.isFolderAt folder = true)
    (name : String) (contents : List UInt8) :
    ChangesOnly (· = folder ++ [name]) disk (disk.put (folder ++ [name]) contents) where
  workingFolder_eq := rfl
  isFolderAt_eq := isFolderAt_put isFolder name contents
  contents?_eq other isOther := by rw [contents?_put, if_neg isOther]

/-! ## Walks to a folder -/

theorem walk_cons (isFolder : disk.isFolderAt location = true) (name : String)
    (names : List String) :
    disk.walk location (name :: names) =
      if name = "." then disk.walk location names
      else if name = ".." then disk.walk location.dropLast names
      else if name.utf8ByteSize > nameLimit then .error .nameTooLong
      else if !disk.existsAt (location ++ [name]) then .error .notFound
      else disk.walk (location ++ [name]) names := by
  rw [walk, isFolder]
  rfl

theorem isFolderAt_of_walk {names : List String} {folder : Location}
    (walked : disk.walk location names = .ok folder) (isFolder : disk.isFolderAt folder = true) :
    disk.isFolderAt location = true := by
  cases names with
  | nil =>
      obtain rfl := Except.ok.inj walked
      exact isFolder
  | cons name names =>
      by_contra notFolder
      rw [walk, Bool.eq_false_iff.mpr notFolder] at walked
      exact absurd walked (by simp)

theorem existsAt_of_isFolderAt (isFolder : disk.isFolderAt location = true) :
    disk.existsAt location = true := by
  rw [existsAt, isFolder, Bool.or_true]

/-- A walk that ends in a folder leads through folders only, so files do not matter
to it. -/
theorem ChangesOnly.walk_eq {changed : Location → Prop} (changes : ChangesOnly changed disk later)
    {names : List String} {folder : Location}
    (walked : disk.walk location names = .ok folder) (isFolder : disk.isFolderAt folder = true) :
    later.walk location names = .ok folder := by
  induction names generalizing location with
  | nil => exact walked
  | cons name names ih =>
      have fromFolder := isFolderAt_of_walk walked isFolder
      have fromFolderLater := (changes.isFolderAt_eq location).trans fromFolder
      rw [walk_cons fromFolder] at walked
      rw [walk_cons fromFolderLater]
      by_cases isHere : name = "."
      · rw [if_pos isHere] at walked ⊢
        exact ih walked
      rw [if_neg isHere] at walked ⊢
      by_cases isAbove : name = ".."
      · rw [if_pos isAbove] at walked ⊢
        exact ih walked
      rw [if_neg isAbove] at walked ⊢
      by_cases isLong : name.utf8ByteSize > nameLimit
      · rw [if_pos isLong] at walked
        exact absurd walked (by simp)
      rw [if_neg isLong] at walked ⊢
      by_cases isMissing : (!disk.existsAt (location ++ [name])) = true
      · rw [if_pos isMissing] at walked
        exact absurd walked (by simp)
      rw [if_neg isMissing] at walked
      have isBelow := isFolderAt_of_walk walked isFolder
      rw [← changes.isFolderAt_eq] at isBelow
      rw [existsAt_of_isFolderAt isBelow]
      exact ih walked

/-! ## Making files -/

/-- A path means a place for a file: its last name can be the name of a file in the
folder that the names before it lead to. -/
structure Creates (disk : Disk) (path : String) (folder : Location) (name : String) : Prop where
  checkPath_eq : checkPath path = .ok ()
  walk_eq : disk.walk (disk.origin path) (Path.names path).dropLast = .ok folder
  isFolderAt_folder : disk.isFolderAt folder = true
  getLast?_eq : (Path.names path).getLast? = some name
  ne_here : name ≠ "."
  ne_above : name ≠ ".."
  endsWithSlash_eq : endsWithSlash path = false
  fits : name.utf8ByteSize ≤ nameLimit
  not_isFolderAt : disk.isFolderAt (folder ++ [name]) = false

theorem create_eq_ok_iff {path : String} {created : Disk} :
    disk.create path = .ok (location, created) ↔
      ∃ folder name, disk.Creates path folder name ∧ location = folder ++ [name] ∧
        created = disk.put location [] := by
  unfold create
  simp only [bind_eq_ok_iff, guard_eq_ok_iff]
  constructor
  · rintro ⟨⟨⟩, checked, folder, walked, isFolder, made⟩
    cases lastEq : (Path.names path).getLast? with
    | none =>
        rw [lastEq] at made
        exact absurd made (by simp [throw, throwThe, MonadExceptOf.throw])
    | some name =>
        rw [lastEq] at made
        simp only [guard_eq_ok_iff, pure_eq_ok_iff, Prod.mk.injEq] at made
        obtain ⟨notStep, noSlash, fits, isFree, rfl, rfl⟩ := made
        refine ⟨folder, name, ?_, rfl, rfl⟩
        exact
          { checkPath_eq := checked
            walk_eq := walked
            isFolderAt_folder := by simpa using isFolder
            getLast?_eq := lastEq
            ne_here := fun isHere => notStep (.inl isHere)
            ne_above := fun isAbove => notStep (.inr isAbove)
            endsWithSlash_eq := Bool.eq_false_iff.mpr noSlash
            fits := Nat.le_of_not_gt fits
            not_isFolderAt := Bool.eq_false_iff.mpr isFree }
  · rintro ⟨folder, name, creates, rfl, rfl⟩
    refine ⟨(), creates.checkPath_eq, folder, creates.walk_eq, ?_, ?_⟩
    · simp [creates.isFolderAt_folder]
    · rw [creates.getLast?_eq]
      have notStep : ¬(name = "." ∨ name = "..") := by simp [creates.ne_here, creates.ne_above]
      have noSlash : ¬ endsWithSlash path = true := by simp [creates.endsWithSlash_eq]
      have isFree : ¬ disk.isFolderAt (folder ++ [name]) = true := by
        simp [creates.not_isFolderAt]
      simp only [guard_eq_ok_iff, pure_eq_ok_iff]
      exact ⟨notStep, noSlash, Nat.not_lt_of_ge creates.fits, isFree, trivial⟩

/-- Whether a file can be made, and where, does not depend on other files. -/
theorem ChangesOnly.creates {changed : Location → Prop} (changes : ChangesOnly changed disk later)
    {path name : String} {folder : Location} (creates : disk.Creates path folder name) :
    later.Creates path folder name :=
  { creates with
    walk_eq := by
      have originEq : later.origin path = disk.origin path := by
        unfold origin
        rw [changes.workingFolder_eq]
      rw [originEq]
      exact changes.walk_eq creates.walk_eq creates.isFolderAt_folder
    isFolderAt_folder := (changes.isFolderAt_eq folder).trans creates.isFolderAt_folder
    not_isFolderAt :=
      (changes.isFolderAt_eq (folder ++ [name])).trans creates.not_isFolderAt }

theorem ChangesOnly.create_eq {changed : Location → Prop}
    (changes : ChangesOnly changed disk later) {path : String} {created : Disk}
    (made : disk.create path = .ok (location, created)) :
    later.create path = .ok (location, later.put location []) := by
  obtain ⟨folder, name, creates, locationEq, -⟩ := create_eq_ok_iff.mp made
  exact create_eq_ok_iff.mpr ⟨folder, name, changes.creates creates, locationEq, rfl⟩

/-- Making a file and writing to it leaves all other files as they are. -/
theorem changesOnly_create {path : String} {created : Disk}
    (made : disk.create path = .ok (location, created)) (position : Nat)
    (written : List UInt8) :
    ChangesOnly (· = location) disk (created.writeAt location position written) := by
  obtain ⟨folder, name, creates, rfl, rfl⟩ := create_eq_ok_iff.mp made
  have emptied := changesOnly_put creates.isFolderAt_folder name []
  have isFolder := (emptied.isFolderAt_eq folder).trans creates.isFolderAt_folder
  exact emptied.trans (changesOnly_put isFolder name _)

end Disk

end Telemetry
