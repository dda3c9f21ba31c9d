import InteropGlue.Files.System
import InteropGlue.Glue.Source
import InteropGlue.Library.Check
import InteropGlue.Library.OfSchema
import InteropGlue.Schema.OfDocument
/-!
# Generation

From a schema, a document or a file to generated source, and from a file to a file. Source is only
generated for libraries without defects, and a file is only written once its text is complete.

## Main Definitions

* `Schema.generate` — the source for a schema.
* `GenerationFault`, `RunFault` — why there is none, with their texts.
* `generateFile` — the source for a schema file.
* `writeOutput` — a text into a file, with the directories of the file.
* `run` — a schema file to a source file.
-/

namespace InteropGlue

/-! ### Schemas -/

/-- Why a schema gives no source. -/
inductive GenerationFault
  | defective (defects : List Defect)
  | noTarget

/-- The texts of a fault, from what was attempted to what went wrong. -/
def GenerationFault.chain : GenerationFault → List String
  | .defective defects => ["validating schema", Defect.report defects]
  | .noTarget => ["`output.targets` must name at least one target"]

/-- The source for a library, checked or not. -/
def Library.source (lib : Library) (output : OutputDecl) (aliases : List AliasDecl) :
    Except GenerationFault String :=
  match lib.sourceFile? output aliases with
  | some file => .ok file.text
  | none => .error .noTarget

/-- The source for a schema. -/
def Schema.generate (schema : Schema) : Except GenerationFault String :=
  let lib := schema.toLibrary
  match lib.defects with
  | [] => lib.source schema.output schema.aliases
  | defects => .error (.defective defects)

/-! ### Files -/

/-- Why a file cannot be read as a text. -/
inductive TextFault
  | unreadable (fault : FileFault)
  | notText

/-- The text of a fault. -/
def TextFault.message : TextFault → String
  | .unreadable fault => fault.message
  | .notText => "stream did not contain valid UTF-8"

/-- Why a run ends without a file. -/
inductive RunFault
  | unread (path : String) (fault : TextFault)
  | undocumented (path : String) (fault : DocumentFault)
  | ungenerated (fault : GenerationFault)
  | noDirectory (path : String) (fault : FileFault)
  | unwritten (path : String) (fault : FileFault)

/-- The texts of a fault, from what was attempted to what went wrong. The reason why a document is
none is not among them. -/
def RunFault.chain : RunFault → List String
  | .unread path fault =>
    ["loading schema from " ++ path,
      "failed to read schema file " ++ path ++ ": " ++ fault.message]
  | .undocumented path _ =>
    ["loading schema from " ++ path, "failed to parse schema file " ++ path]
  | .ungenerated fault => fault.chain
  | .noDirectory path fault => ["creating output directory " ++ path, fault.message]
  | .unwritten path fault => ["writing output to " ++ path, fault.message]

/-! ### Runs -/

/-- A step of a run, which may fail. -/
abbrev Run (m : Type → Type) := ExceptT RunFault m

variable {m : Type → Type} [Monad m] [FileSystem m]

/-- The text of a file. -/
def FileSystem.readText (path : String) : m (Except TextFault String) := do
  match ← FileSystem.read path with
  | .error fault => return .error (.unreadable fault)
  | .ok content =>
    match String.fromUTF8? content with
    | some text => return .ok text
    | none => return .error .notText

/-- The schema in a file. -/
def readSchema (path : String) : Run m Schema := do
  match ← (FileSystem.readText path : m (Except TextFault String)) with
  | .error fault => throw (.unread path fault)
  | .ok document =>
    match Schema.ofDocument document with
    | .error fault => throw (.undocumented path fault)
    | .ok schema => return schema

/-- The source for a schema, as a step of a run. -/
def Schema.generateInRun (schema : Schema) : Run m String :=
  match schema.generate with
  | .error fault => throw (.ungenerated fault)
  | .ok source => return source

/-- The source for a schema file. -/
def generateFile (path : String) : Run m String := do
  (← readSchema path).generateInRun

/-- Makes the directories that a path needs. A path without a parent needs none. -/
def makeParent (path : String) : Run m Unit := do
  match Path.parent? path with
  | none => return
  | some parent =>
    match ← (FileSystem.makeDirectories parent : m (Except FileFault Unit)) with
    | .error fault => throw (.noDirectory parent fault)
    | .ok () => return

/-- Writes a text to a path. The directories of the path are made first, and stay if the file itself
cannot be written. -/
def writeOutput (path source : String) : Run m Unit := do
  makeParent path
  match ← (FileSystem.write path source.toUTF8 : m (Except FileFault Unit)) with
  | .error fault => throw (.unwritten path fault)
  | .ok () => return

/-- Where the source of a schema file is written: to the path given, or else to the path that the
schema states, from the directory of the file. -/
def outputPath (schemaPath : String) (schema : Schema) (given : Option String) : String :=
  given.getD (Path.join ((Path.parent? schemaPath).getD ".") schema.output.file)

/-- Writes the source for a schema file, and returns where. -/
def run (schemaPath : String) (given : Option String) : Run m String := do
  let schema ← readSchema schemaPath
  let source ← schema.generateInRun
  let path := outputPath schemaPath schema given
  writeOutput path source
  return path

end InteropGlue
