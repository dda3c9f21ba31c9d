/-!
# Paths

A path is a text whose components stand between slashes. Repeated slashes and `.` components say
nothing, except a `.` at the front.

## Main Definitions

* `Path.parent?` — the path without its last component.
* `Path.join` — a path continued by another one.
* `Path.ancestors` — a path with all its parents.

## Design Notes

A parent is cut out of the text as it was written, so what stands before the last component keeps
its spelling.
-/

namespace InteropGlue.Path

/-- A reversed path without the slashes and `.` components at its end. A `.` at the front stays. -/
def trimReversed : List Char → List Char
  | '/' :: rest => trimReversed rest
  | '.' :: '/' :: rest => trimReversed rest
  | path => path

/-- The path without its last component; the empty path and `/` have none. -/
def parent? (path : String) : Option String :=
  match trimReversed path.toList.reverse with
  | [] => none
  | trimmed =>
    match trimmed.dropWhile (· != '/') with
    | [] => some ""
    | above =>
      match trimReversed above with
      | [] => some "/"
      | parent => some (String.ofList parent.reverse)

/-- A path continued by another one. An absolute path replaces what it continues. -/
def join (base path : String) : String :=
  if path.startsWith "/" ∨ base.isEmpty then path
  else if base.endsWith "/" then base ++ path
  else base ++ "/" ++ path

/-- A path, its parent, and so on, at most `bound` of them. -/
def ancestorsUpTo : Nat → String → List String
  | 0, _ => []
  | bound + 1, path =>
    path ::
      match parent? path with
      | some parent => ancestorsUpTo bound parent
      | none => []

/-- A path, its parent, and so on up to the empty path. Each is shorter than the one before. -/
def ancestors (path : String) : List String := ancestorsUpTo (path.length + 1) path

/-- The components of a path as they are written. -/
def components (path : String) : List String := path.splitOn "/"

end InteropGlue.Path
