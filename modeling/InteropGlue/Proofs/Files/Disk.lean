import InteropGlue.Files.Disk
/-!
# What operations change on a disk

Reading changes nothing. A new directory stands where nothing was, and a written file changes one
location, so all other files stay as they are. A file that was written holds what was written: the
directories on the way to it are those that the operation went through itself.

## Main Definitions

* `Disk.Frame` — a disk differs from another one in some files, and has no less directories.
* `Disk.Writes` — a disk is another one with a file written.
* `Disk.KeepsFiles` — a program has no influence on files.

## Main Results

* `Disk.frame_makeDirectory`, `Disk.writes_of_write` — the operations, each with what it changes.
* `Disk.KeepsFiles.makeDirectories` — a chain of directories.

## Design Notes

Nothing is asked of a disk: not that the parents of a directory exist, nor that a location holds one
thing only.
-/

namespace InteropGlue

namespace Disk

/-- One disk differs from another one at most in the files at some locations. All other files are
the same, and all directories are still there, perhaps with new ones. -/
structure Frame (locations : List Location) (before after : Disk) : Prop where
  here : after.here = before.here
  directory : ∀ location, before.at? location = some .directory →
    after.at? location = some .directory
  file : ∀ location, location ∉ locations → ∀ content,
    after.at? location = some (.file content) ↔ before.at? location = some (.file content)

/-- One disk is another one with a file written, which the path leads to. -/
structure Writes (before after : Disk) (path : String) (content : ByteArray) : Prop where
  /-- What is read from the path is the content. -/
  read : after.read path = .ok content
  /-- No other file has changed. -/
  frame : ∃ location, after.locate path = .ok location ∧ Frame [location] before after

namespace Frame

variable {locations more : List Location} {first second third : Disk}

theorem refl (locations : List Location) (disk : Disk) : Frame locations disk disk :=
  ⟨rfl, fun _ isDirectory => isDirectory, fun _ _ _ => Iff.rfl⟩

theorem trans (before : Frame locations first second) (after : Frame locations second third) :
    Frame locations first third :=
  ⟨after.here.trans before.here,
    fun location isDirectory => after.directory location (before.directory location isDirectory),
    fun location untouched content =>
      (after.file location untouched content).trans (before.file location untouched content)⟩

/-- A frame over fewer locations is a frame over more. -/
theorem mono (frame : Frame locations first second) (fewer : locations ⊆ more) :
    Frame more first second :=
  ⟨frame.here, frame.directory,
    fun location untouched => frame.file location fun touched => untouched (fewer touched)⟩

end Frame

/-! ### Contents of locations -/

variable {disk changed : Disk}

theorem at?_eq_directory_iff {location : Location} :
    disk.at? location = some .directory ↔ location = [] ∨ location ∈ disk.directories := by
  unfold at?
  split
  · next isDirectory => exact iff_of_true rfl isDirectory
  · next notDirectory =>
    refine iff_of_false ?_ notDirectory
    cases disk.fileAt? location <;> simp

theorem at?_of_not_directory {location : Location}
    (notDirectory : disk.at? location ≠ some .directory) :
    disk.at? location = (disk.fileAt? location).map .file := by
  unfold at?
  rw [if_neg (mt at?_eq_directory_iff.mpr notDirectory)]

/-- Directories are where they were, whatever a file holds. -/
theorem setFile_at?_directory_iff {location other : Location} {content : ByteArray} :
    (disk.setFile location content).at? other = some .directory ↔
      disk.at? other = some .directory := by
  rw [at?_eq_directory_iff, at?_eq_directory_iff]
  rfl

/-- A file that is set has the content, except in place of a directory. -/
theorem at?_setFile_self {location : Location} {content : ByteArray}
    (notDirectory : disk.at? location ≠ some .directory) :
    (disk.setFile location content).at? location = some (.file content) := by
  rw [at?_of_not_directory (mt setFile_at?_directory_iff.mp notDirectory), fileAt?, setFile,
    List.lookup_cons_self, Option.map_some]

theorem lookup_filter_ne {entries : List (Location × ByteArray)} {location other : Location}
    (apart : other ≠ location) :
    (entries.filter (·.1 != location)).lookup other = entries.lookup other := by
  induction entries with
  | nil => rfl
  | cons entry rest ih =>
    obtain ⟨place, content⟩ := entry
    by_cases replaced : place = location
    · have skipped : (other == place) = false := beq_eq_false_iff_ne.mpr (replaced ▸ apart)
      rw [List.filter_cons_of_neg (by simpa using replaced), ih, List.lookup_cons, skipped]
    · rw [List.filter_cons_of_pos (by simpa using replaced), List.lookup_cons, List.lookup_cons, ih]

theorem fileAt?_setFile_of_ne {location other : Location} {content : ByteArray}
    (apart : other ≠ location) :
    (disk.setFile location content).fileAt? other = disk.fileAt? other := by
  have skipped : (other == location) = false := beq_eq_false_iff_ne.mpr apart
  unfold fileAt? setFile
  rw [List.lookup_cons, skipped]
  exact lookup_filter_ne apart

/-- A file that is set changes one location. -/
theorem frame_setFile (disk : Disk) (location : Location) (content : ByteArray) :
    Frame [location] disk (disk.setFile location content) := by
  refine ⟨rfl, fun other => setFile_at?_directory_iff.mpr, fun other apart found => ?_⟩
  by_cases isDirectory : disk.at? other = some .directory
  · rw [setFile_at?_directory_iff.mpr isDirectory, isDirectory]
  · rw [at?_of_not_directory isDirectory,
      at?_of_not_directory (mt setFile_at?_directory_iff.mp isDirectory),
      fileAt?_setFile_of_ne (mt List.mem_singleton.mpr apart)]

/-- A new directory where nothing was leaves everything as it is. -/
theorem frame_addDirectory {location : Location} (nothing : disk.at? location = none) :
    Frame [] disk { disk with directories := location :: disk.directories } := by
  have directory_iff : ∀ other,
      Disk.at? { disk with directories := location :: disk.directories } other =
          some .directory ↔ other = location ∨ disk.at? other = some .directory := by
    intro other
    rw [at?_eq_directory_iff, at?_eq_directory_iff, List.mem_cons]
    exact or_left_comm
  refine ⟨rfl, fun other isOld => (directory_iff other).mpr (.inr isOld),
    fun other _ content => ?_⟩
  by_cases same : other = location
  · rw [(directory_iff other).mpr (.inl same), same, nothing]
    simp
  · by_cases isDirectory : disk.at? other = some .directory
    · rw [isDirectory, (directory_iff other).mpr (.inr isDirectory)]
    · have stillNone := mt (directory_iff other).mp (not_or.mpr ⟨same, isDirectory⟩)
      rw [at?_of_not_directory isDirectory, at?_of_not_directory stillNone]
      rfl

/-! ### Ways to a file -/

/-- Where a way ends in a directory, it goes on from there, also on a disk with more directories. -/
theorem walk_append (grown : ∀ location, disk.at? location = some .directory →
      changed.at? location = some .directory) {start finish : Location} {names : List String}
    (leads : disk.walk start (names ++ [""]) = .ok finish) (rest : List String) :
    changed.walk start (names ++ rest) = changed.walk finish rest := by
  induction names generalizing start with
  | nil =>
    rw [List.nil_append, walk, if_pos (.inl rfl), walk, Except.ok.injEq] at leads
    rw [leads, List.nil_append]
  | cons name names ih =>
    rw [List.cons_append, walk] at leads ⊢
    split at leads
    · next isSkipped =>
      rw [if_pos isSkipped]
      exact ih leads
    · next notSkipped =>
      rw [if_neg notSkipped]
      split at leads
      · next isUp =>
        rw [if_pos isUp]
        exact ih leads
      · next notUp =>
        rw [if_neg notUp]
        split at leads
        · next isDirectory =>
          rw [grown _ isDirectory]
          exact ih leads
        · -- More names follow, so a file cannot be the end of the way.
          rw [if_neg (by simp)] at leads
          cases leads
        · cases leads

/-- A path with a name at its end and no slash behind it. -/
theorem components_of_pathEnd {path name : String} {directory : Location}
    (ends : disk.pathEnd path = .ok ⟨directory, some name, false⟩) :
    ∃ above, Path.components path = above ++ [name] ∧
      disk.walk (disk.start path) (above ++ [""]) = .ok directory ∧
      ¬(name = "" ∨ name = ".") ∧ name ≠ ".." := by
  unfold pathEnd at ends
  dsimp only at ends
  split at ends
  · split at ends <;> cases ends
  · next last above trimmed =>
    cases leads : disk.walk (disk.start path) ("" :: above).reverse with
    | error fault =>
      rw [leads] at ends
      cases ends
    | ok reached =>
      rw [leads] at ends
      have same := Except.ok.inj ends
      rw [PathEnd.mk.injEq] at same
      obtain ⟨rfl, named, noSlash⟩ := same
      split at named
      · cases named
      · next isName =>
        obtain rfl := Option.some.inj named
        -- Nothing was trimmed, since the text does not end with a slash.
        have untrimmed : (Path.components path).reverse = last :: above := by
          rw [← trimmed]
          cases backwards : (Path.components path).reverse with
          | nil =>
            rw [backwards] at trimmed
            cases trimmed
          | cons final rest =>
            rw [backwards, List.head?_cons] at noSlash
            rw [List.dropWhile_cons_of_neg]
            simpa [String.isEmpty_iff] using noSlash
        have nonempty : last.isEmpty = false := by
          have kept := List.head?_dropWhile_not (·.isEmpty) (Path.components path).reverse
          rw [trimmed] at kept
          exact kept
        refine ⟨above.reverse, ?_, ?_, ?_, fun isUp => isName (.inr isUp)⟩
        · rw [← List.reverse_reverse (Path.components path), untrimmed, List.reverse_cons]
        · rw [List.reverse_cons] at leads
          exact leads
        · rintro (isEmpty | isDot)
          · exact absurd (String.isEmpty_iff.mpr isEmpty) (by simp [nonempty])
          · exact isName (.inl isDot)

theorem components_empty : Path.components "" = [""] := by
  rw [Path.components, String.splitOn, if_neg (by decide), String.splitOnAux]
  rfl

/-- What a path leads to after a file was set at its end. -/
theorem locate_setFile {path name : String} {directory : Location} {content : ByteArray}
    (ends : disk.pathEnd path = .ok ⟨directory, some name, false⟩)
    (notDirectory : disk.at? (directory ++ [name]) ≠ some .directory) :
    (disk.setFile (directory ++ [name]) content).locate path = .ok (directory ++ [name]) := by
  obtain ⟨above, components, leads, notSkipped, notUp⟩ := components_of_pathEnd ends
  have nonempty : path ≠ "" := by
    rintro rfl
    rw [components_empty] at components
    cases above with
    | nil => exact notSkipped (.inl (List.singleton_inj.mp components).symm)
    | cons => simp at components
  rw [locate, if_neg (mt String.isEmpty_iff.mp nonempty), components]
  show walk _ (disk.start path) _ = _
  rw [walk_append (fun _ => setFile_at?_directory_iff.mpr) leads, walk, if_neg notSkipped,
    if_neg notUp, at?_setFile_self notDirectory]
  rfl

/-! ### Operations -/

/-- A written file holds what was written, and nothing else has changed. -/
theorem writes_of_write {path : String} {content : ByteArray}
    (written : disk.write path content = .ok changed) : Writes disk changed path content := by
  unfold write at written
  cases ends : disk.pathEnd path with
  | error fault =>
    rw [ends] at written
    cases written
  | ok ending =>
    obtain ⟨directory, name?, hasSlash⟩ := ending
    rw [ends] at written
    cases name? with
    | none => cases written
    | some name =>
      cases hasSlash with
      | true => cases written
      | false =>
        dsimp only [bind, Except.bind] at written
        split at written
        · cases written
        · next notDirectory =>
          obtain rfl := Except.ok.inj written
          have leads : (disk.setFile (directory ++ [name]) content).locate path =
              .ok (directory ++ [name]) := locate_setFile ends notDirectory
          refine ⟨?_, directory ++ [name], leads, frame_setFile _ _ _⟩
          unfold read
          rw [leads]
          dsimp only [bind, Except.bind]
          rw [at?_setFile_self notDirectory]
          rfl

/-- A new directory is made where nothing was. -/
theorem frame_makeDirectory {path : String} (made : disk.makeDirectory path = .ok changed) :
    Frame [] disk changed := by
  unfold makeDirectory at made
  cases ends : disk.pathEnd path with
  | error fault =>
    rw [ends] at made
    cases made
  | ok ending =>
    obtain ⟨directory, name?, hasSlash⟩ := ending
    rw [ends] at made
    cases name? with
    | none => cases made
    | some name =>
      dsimp only [bind, Except.bind] at made
      split at made
      · cases made
      · next nothing =>
        obtain rfl := Except.ok.inj made
        exact frame_addDirectory nothing

/-! ### Programs -/

/-- A program leaves the files of every disk as they are. -/
def KeepsFiles {α : Type} (program : StateM Disk α) : Prop :=
  ∀ disk, Frame [] disk (program.run disk).2

namespace KeepsFiles

variable {α β : Type}

theorem pure (value : α) : KeepsFiles (Pure.pure value) := fun disk => Frame.refl [] disk

theorem bind {program : StateM Disk α} {next : α → StateM Disk β} (first : KeepsFiles program)
    (second : ∀ value, KeepsFiles (next value)) : KeepsFiles (program >>= next) := fun disk =>
  (first disk).trans (second (program.run disk).1 (program.run disk).2)

theorem isDirectory (path : String) :
    KeepsFiles (FileSystem.isDirectory path : StateM Disk Bool) := fun disk => Frame.refl [] disk

theorem makeDirectory (path : String) :
    KeepsFiles (FileSystem.makeDirectory path : StateM Disk (Except FileFault Unit)) := by
  intro disk
  show Frame [] disk (disk.settle (disk.makeDirectory path)).2
  cases made : disk.makeDirectory path with
  | error fault => exact Frame.refl [] disk
  | ok changed => exact frame_makeDirectory made

theorem ensureDirectory (path : String) :
    KeepsFiles (FileSystem.ensureDirectory path : StateM Disk (Except FileFault Unit)) := by
  refine bind (makeDirectory path) fun made => ?_
  cases made with
  | ok => exact pure _
  | error fault => exact bind (isDirectory path) fun found => pure _

theorem ensureChain (paths : List String) :
    KeepsFiles (FileSystem.ensureChain paths : StateM Disk (Except FileFault Unit)) := by
  induction paths with
  | nil => exact pure _
  | cons path above ih =>
    unfold FileSystem.ensureChain
    split
    · exact pure _
    · refine bind (ensureDirectory path) fun ensured => ?_
      split
      · refine bind ih fun chain => ?_
        cases chain with
        | ok => exact ensureDirectory path
        | error fault => exact pure _
      · exact pure _

/-- All directories that a path needs are made without a change to a file. -/
theorem makeDirectories (path : String) :
    KeepsFiles (FileSystem.makeDirectories path : StateM Disk (Except FileFault Unit)) :=
  ensureChain (Path.ancestors path)

end KeepsFiles

end Disk

end InteropGlue
