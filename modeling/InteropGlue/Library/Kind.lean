import InteropGlue.Library.Basic
import InteropGlue.Library.Primitive
/-!
# Kinds of types

Every reference to a type has exactly one kind in a library. The built-in names come first, then the
declarations in a fixed order, so a declaration cannot change what a built-in name means.

## Main Definitions

* `Kind` — the kinds.
* `Library.struct?`, `Library.class?` — the first declaration of a name.
* `Library.kindOf` — the kind of a reference.
* `Library.needsConversion` — the references whose values differ between the two sides because a
  handle may be inside.
-/

namespace InteropGlue

/-- What a reference to a type means in a library. -/
inductive Kind
  | void
  | bool
  /-- Any other primitive. -/
  | primitive
  | handle
  | enumType
  | structType
  | classType
  /-- An alias or a type of the framework, the same on both sides. -/
  | external
  | array
  | unknown
  deriving DecidableEq, Repr

namespace Library

/-- The first struct with a name. -/
def struct? (lib : Library) (name : String) : Option Record :=
  lib.structs.find? (·.name == name)

/-- The first class with a name. -/
def class? (lib : Library) (name : String) : Option Record :=
  lib.classes.find? (·.name == name)

/-- The kind of a name. -/
def kindOfName (lib : Library) (name : String) : Kind :=
  if name = "void" then .void
  else if name = "bool" then .bool
  else if name = handleType then .handle
  else if (canonicalPrimitive? name).isSome then .primitive
  else if (lib.struct? name).isSome then .structType
  else if (lib.class? name).isSome then .classType
  else if lib.enums.any (·.name == name) then .enumType
  else if lib.aliases.contains name || frameworkTypes.contains name then .external
  else .unknown

/-- The kind of a reference. -/
def kindOf (lib : Library) : TypeRef → Kind
  | .named name => lib.kindOfName name
  | .array _ _ => .array

/-- A value of the type may hold handles, so converting it needs to know the virtual machine:
handles, records, and arrays of these. -/
def needsConversion (lib : Library) : TypeRef → Bool
  | .named name =>
    match lib.kindOfName name with
    | .handle | .structType | .classType => true
    | _ => false
  | .array element _ => lib.needsConversion element

end Library

end InteropGlue
