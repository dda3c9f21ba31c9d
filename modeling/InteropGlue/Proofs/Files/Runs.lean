import InteropGlue.Generate
import InteropGlue.Proofs.Files.Disk
/-!
# Runs on a disk

The text of a file is complete before anything is written, and the file is the last thing that is
written. So a run that fails leaves all files as they were, and one that ends well has changed one
file, even where this is the schema file itself.

## Main Definitions

* `Run.onDisk` — what a step of a run does to a disk.
* `RunFault.BeforeWriting` — the faults that end a run before it changes anything.
* `Run.Precedes` — a step that only reads.

## Main Results

* `readSchema_precedes`, `generateInRun_precedes` — what comes before the writing only reads.
* `writeOutput_onDisk` — a text is written with all directories, or no file has changed.
* `run_all_or_nothing` — whole runs.

## Design Notes

Directories may be made in vain: they stay if the file cannot be written. The source is that of the
schema file as it was at first, since it is a value before the file is written.
-/

namespace InteropGlue

variable {α β : Type}

/-- What a step of a run does to a disk. -/
def Run.onDisk (step : Run (StateM Disk) α) (disk : Disk) : Except RunFault α × Disk :=
  step.run.run disk

/-- A fault of reading, parsing, checking or generating. -/
def RunFault.BeforeWriting : RunFault → Prop
  | .unread .. | .undocumented .. | .ungenerated _ => True
  | .noDirectory .. | .unwritten .. => False

namespace Run

variable {step : Run (StateM Disk) α} {next : α → Run (StateM Disk) β} {disk after : Disk}

theorem onDisk_bind_ok {value : α} (ends : step.onDisk disk = (.ok value, after)) :
    (step >>= next).onDisk disk = (next value).onDisk after := by
  show ((ExceptT.bindCont next (step.onDisk disk).1).run (step.onDisk disk).2) = _
  rw [ends]
  rfl

theorem onDisk_bind_error {fault : RunFault} (ends : step.onDisk disk = (.error fault, after)) :
    (step >>= next).onDisk disk = (.error fault, after) := by
  show ((ExceptT.bindCont next (step.onDisk disk).1).run (step.onDisk disk).2) = _
  rw [ends]
  rfl

/-- A program on its own, as a step of a run. -/
theorem onDisk_lift_bind (program : StateM Disk α) (disk : Disk) :
    ((monadLift program : Run (StateM Disk) α) >>= next).onDisk disk =
      (next (program.run disk).1).onDisk (program.run disk).2 :=
  onDisk_bind_ok rfl

end Run

/-- A step never changes a disk, and fails for a reason that comes before the writing only. -/
def Run.Precedes (step : Run (StateM Disk) α) : Prop :=
  ∀ disk, (∃ value, step.onDisk disk = (.ok value, disk)) ∨
    ∃ fault : RunFault, fault.BeforeWriting ∧ step.onDisk disk = (.error fault, disk)

/-! ### Steps -/

/-- Reading a text leaves a disk as it is, whatever the text is. -/
theorem readText_run (path : String) (disk : Disk) :
    ∃ text, (FileSystem.readText path : StateM Disk (Except TextFault String)).run disk =
      (text, disk) := by
  have reads : (FileSystem.read path : StateM Disk (Except FileFault ByteArray)).run disk =
    (disk.read path, disk) := rfl
  unfold FileSystem.readText
  rw [StateT.run_bind, reads]
  dsimp only [bind, Id.run]
  split
  · exact ⟨_, rfl⟩
  · split <;> exact ⟨_, rfl⟩

theorem readSchema_precedes (path : String) :
    (readSchema path : Run (StateM Disk) Schema).Precedes := by
  intro disk
  obtain ⟨text, reads⟩ := readText_run path disk
  unfold readSchema
  rw [Run.onDisk_lift_bind, reads]
  cases text with
  | error fault => exact .inr ⟨.unread path fault, trivial, rfl⟩
  | ok document =>
    dsimp only
    split
    · next fault _ => exact .inr ⟨.undocumented path fault, trivial, rfl⟩
    · next schema _ => exact .inl ⟨schema, rfl⟩

theorem generateInRun_precedes (schema : Schema) :
    (schema.generateInRun : Run (StateM Disk) String).Precedes := by
  intro disk
  unfold Schema.generateInRun
  split
  · next fault _ => exact .inr ⟨.ungenerated fault, trivial, rfl⟩
  · next source _ => exact .inl ⟨source, rfl⟩

/-- Making the parent of a path changes no file, also where it fails. -/
theorem makeParent_onDisk (path : String) (disk : Disk) :
    ∃ after, Disk.Frame [] disk after ∧
      ((makeParent path : Run (StateM Disk) Unit).onDisk disk = (.ok (), after) ∨
        ∃ parent fault, (makeParent path : Run (StateM Disk) Unit).onDisk disk =
          (.error (.noDirectory parent fault), after)) := by
  unfold makeParent
  split
  · exact ⟨disk, .refl [] disk, .inl rfl⟩
  · next parent _ =>
    refine ⟨_, Disk.KeepsFiles.makeDirectories parent disk, ?_⟩
    rw [Run.onDisk_lift_bind]
    split
    · exact .inr ⟨_, _, rfl⟩
    · exact .inl rfl

/-- Writing writes the file, or fails and changes no file. -/
theorem writeOutput_onDisk (path source : String) (disk : Disk) :
    (∃ after, (writeOutput path source : Run (StateM Disk) Unit).onDisk disk = (.ok (), after) ∧
        disk.Writes after path source.toUTF8) ∨
      ∃ fault after, (writeOutput path source : Run (StateM Disk) Unit).onDisk disk =
          (.error fault, after) ∧ ¬ fault.BeforeWriting ∧ Disk.Frame [] disk after := by
  obtain ⟨prepared, kept, made | ⟨parent, fault, failed⟩⟩ := makeParent_onDisk path disk
  · have writes : (FileSystem.write path source.toUTF8 : StateM Disk (Except FileFault Unit)).run
        prepared = prepared.settle (prepared.write path source.toUTF8) := rfl
    unfold writeOutput
    rw [Run.onDisk_bind_ok made, Run.onDisk_lift_bind, writes]
    cases written : prepared.write path source.toUTF8 with
    | error fault => exact .inr ⟨.unwritten path fault, prepared, rfl, id, kept⟩
    | ok after =>
      obtain ⟨read, location, leads, frame⟩ := Disk.writes_of_write written
      exact .inl ⟨after, rfl, read, location, leads, (kept.mono (List.nil_subset _)).trans frame⟩
  · exact .inr ⟨.noDirectory parent fault, prepared, Run.onDisk_bind_error failed, id, kept⟩

/-! ### Whole runs -/

/-- A run that fails has changed no file, and no directory either before it came to writing. A run
that ends well has written the source that the schema file gave at first, to the path given or the
one stated in the schema, and has changed no other file. -/
theorem run_all_or_nothing (schemaPath : String) (given : Option String) (disk : Disk) :
    match (run schemaPath given : Run (StateM Disk) String).onDisk disk with
    | (.error fault, after) =>
      Disk.Frame [] disk after ∧ (fault.BeforeWriting → after = disk)
    | (.ok path, after) =>
      ∃ schema source,
        (readSchema schemaPath : Run (StateM Disk) Schema).onDisk disk = (.ok schema, disk) ∧
          path = given.getD
            (Path.join ((Path.parent? schemaPath).getD ".") schema.output.file) ∧
          (generateFile schemaPath : Run (StateM Disk) String).onDisk disk = (.ok source, disk) ∧
          disk.Writes after path source.toUTF8 := by
  unfold run
  rcases readSchema_precedes schemaPath disk with ⟨schema, readsSchema⟩ | ⟨fault, early, fails⟩
  · rw [Run.onDisk_bind_ok readsSchema]
    rcases generateInRun_precedes schema disk with ⟨source, generates⟩ | ⟨fault, early, fails⟩
    · have generatesFile : (generateFile schemaPath : Run (StateM Disk) String).onDisk disk =
          (.ok source, disk) := (Run.onDisk_bind_ok readsSchema).trans generates
      rw [Run.onDisk_bind_ok generates]
      rcases writeOutput_onDisk (outputPath schemaPath schema given) source disk with
        ⟨after, writes, written⟩ | ⟨fault, after, fails, late, kept⟩
      · rw [Run.onDisk_bind_ok writes]
        exact ⟨schema, source, readsSchema, rfl, generatesFile, written⟩
      · rw [Run.onDisk_bind_error fails]
        exact ⟨kept, fun early => absurd early late⟩
    · rw [Run.onDisk_bind_error fails]
      exact ⟨.refl [] disk, fun _ => rfl⟩
  · rw [Run.onDisk_bind_error fails]
    exact ⟨.refl [] disk, fun _ => rfl⟩

end InteropGlue
