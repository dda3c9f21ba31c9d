import InteropGlue.Files.System
/-!
# Directories and files

A disk holds directories and regular files. There are no links, and everything may be read and
written. Paths lead from a working directory.

## Main Definitions

* `Disk` — the directories and the contents of the files.
* `Disk.read`, `Disk.write` — the content of a file.
* `Disk.makeDirectory` — a new directory.
* The instance of `FileSystem` by which programs run on a disk.

## Design Notes

A location is the list of names from the root, which is a directory on every disk. A path leads step
by step through directories that exist, also where a later `..` leads back.
-/

namespace InteropGlue

/-- Names from the root of a disk. -/
abbrev Location := List String

/-- Directories and the contents of regular files. -/
structure Disk where
  directories : List Location
  files : List (Location × ByteArray)
  /-- The working directory. -/
  here : Location

/-- What a location holds. -/
inductive Inode
  | file (content : ByteArray)
  | directory

namespace Disk

/-- A disk with nothing in its working directory. -/
def empty : Disk := { directories := [["work"]], files := [], here := ["work"] }

/-- The content of the file at a location. -/
def fileAt? (disk : Disk) (location : Location) : Option ByteArray := disk.files.lookup location

/-- What is at a location. -/
def at? (disk : Disk) (location : Location) : Option Inode :=
  if location = [] ∨ location ∈ disk.directories then some .directory
  else (disk.fileAt? location).map .file

/-- The location to which components lead from a directory. -/
def walk (disk : Disk) (location : Location) : List String → Except FileFault Location
  | [] => .ok location
  | name :: rest =>
    if name = "" ∨ name = "." then walk disk location rest
    else if name = ".." then walk disk location.dropLast rest
    else
      match disk.at? (location ++ [name]) with
      | some .directory => walk disk (location ++ [name]) rest
      | some (.file _) => if rest = [] then .ok (location ++ [name]) else .error .notDirectory
      | none => .error .notFound

/-- Where a path starts. -/
def start (disk : Disk) (path : String) : Location :=
  if path.startsWith "/" then [] else disk.here

/-- The location of an existing file or directory. -/
def locate (disk : Disk) (path : String) : Except FileFault Location :=
  if path.isEmpty then .error .notFound else disk.walk (disk.start path) (Path.components path)

/-- A path leads to a directory. -/
def isDirectory (disk : Disk) (path : String) : Bool :=
  match disk.locate path with
  | .ok location =>
    match disk.at? location with
    | some .directory => true
    | _ => false
  | .error _ => false

/-- The content of a file. -/
def read (disk : Disk) (path : String) : Except FileFault ByteArray := do
  let location ← disk.locate path
  match disk.at? location with
  | some (.file content) => return content
  | some .directory => throw .isDirectory
  | none => throw .notFound

/-- The end of a path: the directory it is in, its name, and whether slashes follow the name. A name
of `none` stands for the directory itself or the one around it. -/
structure PathEnd where
  directory : Location
  name : Option String
  hasSlash : Bool

/-- The end of a path whose directory exists. -/
def pathEnd (disk : Disk) (path : String) : Except FileFault PathEnd := do
  let reversed := (Path.components path).reverse
  match reversed.dropWhile (·.isEmpty) with
  | [] => if path.isEmpty then throw .notFound else return ⟨[], none, true⟩
  | name :: above =>
    let directory ← disk.walk (disk.start path) ("" :: above).reverse
    return {
      directory
      name := if name = "." ∨ name = ".." then none else some name
      hasSlash := reversed.head? = some "" }

/-- The disk with the content of the file at a location set. -/
def setFile (disk : Disk) (location : Location) (content : ByteArray) : Disk :=
  { disk with files := (location, content) :: disk.files.filter (·.1 != location) }

/-- The disk after a file is written, which is new or loses its content. -/
def write (disk : Disk) (path : String) (content : ByteArray) : Except FileFault Disk := do
  let ending ← disk.pathEnd path
  match ending.name, ending.hasSlash with
  | none, _ | _, true => throw .isDirectory
  | some name, false =>
    let location := ending.directory ++ [name]
    match disk.at? location with
    | some .directory => throw .isDirectory
    | _ => return disk.setFile location content

/-- The disk with a new directory. -/
def makeDirectory (disk : Disk) (path : String) : Except FileFault Disk := do
  let ending ← disk.pathEnd path
  match ending.name with
  | none => throw .alreadyExists
  | some name =>
    let location := ending.directory ++ [name]
    match disk.at? location with
    | some _ => throw .alreadyExists
    | none => return { disk with directories := location :: disk.directories }

/-- The disk after an attempt to change it, which leaves it as it was if it fails. -/
def settle (disk : Disk) (result : Except FileFault Disk) : Except FileFault Unit × Disk :=
  match result with
  | .ok changed => (.ok (), changed)
  | .error fault => (.error fault, disk)

/-- Programs run on a disk. -/
instance : FileSystem (StateM Disk) where
  read path := fun disk => (disk.read path, disk)
  write path content := fun disk => disk.settle (disk.write path content)
  makeDirectory path := fun disk => disk.settle (disk.makeDirectory path)
  isDirectory path := fun disk => (disk.isDirectory path, disk)

end Disk

end InteropGlue
