import InteropGlue.Files.Path
/-!
# File systems

What programs do with files, whatever holds the files.

## Main Definitions

* `FileFault` — why an operation on a file fails.
* `FileSystem` — the operations.
* `FileSystem.makeDirectories` — all directories that a path needs.
-/

namespace InteropGlue

/-- Why an operation on a file fails. -/
inductive FileFault
  | notFound
  | alreadyExists
  | notDirectory
  | isDirectory
  /-- Any other reason that a system gives. -/
  | refused (code : Nat) (reason : String)
  deriving DecidableEq, Repr

/-- The text of a fault. -/
def FileFault.message : FileFault → String
  | .notFound => "No such file or directory (os error 2)"
  | .alreadyExists => "File exists (os error 17)"
  | .notDirectory => "Not a directory (os error 20)"
  | .isDirectory => "Is a directory (os error 21)"
  | .refused code reason => reason ++ " (os error " ++ toString code ++ ")"

/-- The operations on files. -/
class FileSystem (m : Type → Type) where
  /-- The content of a file. -/
  read : String → m (Except FileFault ByteArray)
  /-- Writes a file, which is new or loses its content. -/
  write : String → ByteArray → m (Except FileFault Unit)
  /-- Makes one directory. -/
  makeDirectory : String → m (Except FileFault Unit)
  /-- A path leads to a directory. -/
  isDirectory : String → m Bool

namespace FileSystem

variable {m : Type → Type} [Monad m] [FileSystem m]

/-- Makes a directory that may be there already. -/
def ensureDirectory (path : String) : m (Except FileFault Unit) := do
  match ← makeDirectory path with
  | .ok () => return .ok ()
  | .error fault => return if ← isDirectory path then .ok () else .error fault

/-- Makes the first of a list of paths a directory, each path being the parent of the one before it.
A directory that is missing on the way is made, too, and stays whatever happens later. The empty
path needs none. -/
def ensureChain : List String → m (Except FileFault Unit)
  | [] => return .error .notFound
  | path :: above => do
    if path.isEmpty then return .ok ()
    match ← ensureDirectory path with
    | .error .notFound =>
      match ← ensureChain above with
      | .ok () => ensureDirectory path
      | .error fault => return .error fault
    | result => return result

/-- Makes a path a directory, with all directories that it needs. -/
def makeDirectories (path : String) : m (Except FileFault Unit) :=
  ensureChain (Path.ancestors path)

end FileSystem

end InteropGlue
