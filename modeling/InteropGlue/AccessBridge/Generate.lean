import InteropGlue.AccessBridge.SchemaText
import InteropGlue.Generate
/-!
# The Access Bridge source

The source for the Access Bridge, generated from its own schema document.

## Main Definitions

* `AccessBridge.schemaFile` — the file name of the document.
* `AccessBridge.source` — the generated source.
* `AccessBridge.generate` — the source written to a path.
-/

namespace InteropGlue.AccessBridge

/-- The file name of the schema document. -/
def schemaFile : String := "access_bridge.toml"

variable {m : Type → Type} [Monad m] [FileSystem m]

/-- The generated source. -/
def source : Run m String :=
  match Schema.ofDocument schemaText with
  | .error fault => throw (.undocumented schemaFile fault)
  | .ok schema => schema.generateInRun

/-- Writes the source to a path. -/
def generate (path : String) : Run m Unit := do
  writeOutput path (← source)

end InteropGlue.AccessBridge
