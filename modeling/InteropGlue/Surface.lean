import InteropGlue.Library.Kind
/-!
# Surfaces

Generated source has an application surface, and a native surface for each target. A type is spelled
for a surface: handles and booleans are integers natively, and native records have a suffix of their
own. Marshaling annotations describe native layout and appear natively only.

## Main Definitions

* `Target` — the native targets and their suffixes.
* `Mode` — a surface of a target.
* `Library.typeName` — the spelling of a type on a surface.
* `marshalAttribute?` — the attribute for a marshaling annotation.
-/

namespace InteropGlue

/-- The width of handles in the target process. -/
inductive Target
  /-- Handles of 64 bits. -/
  | modern
  /-- Handles of 32 bits. -/
  | legacy
  deriving DecidableEq, Repr

namespace Target

/-- The native spelling of the handle. -/
def handleName : Target → String
  | .modern => "JOBJECT64"
  | .legacy => "JOBJECT32"

/-- The suffix of the classes generated for a target. -/
def classSuffix : Target → String
  | .modern => ""
  | .legacy => "Legacy"

/-- The suffix of native structs and classes. -/
def recordSuffix : Target → String
  | .modern => "Native"
  | .legacy => "NativeLegacy"

/-- The word for a target. -/
def label : Target → String
  | .modern => "modern"
  | .legacy => "legacy"

end Target

/-- A surface of a target. -/
structure Mode where
  isNative : Bool
  target : Target
  deriving DecidableEq, Repr

namespace Mode

/-- The native surface of a target. -/
def native (target : Target) : Mode := ⟨true, target⟩

/-- The application surface of a target. -/
def application (target : Target) : Mode := ⟨false, target⟩

/-- The other surface of the same target. -/
def inverted (mode : Mode) : Mode := { mode with isNative := !mode.isNative }

end Mode

/-- The native spelling of `bool`, an integer. -/
def nativeBool : String := "BOOL"

/-- The spelling of a type on a surface. -/
def Library.typeName (lib : Library) (mode : Mode) : TypeRef → String
  | .array element _ => lib.typeName mode element ++ "[]"
  | .named name =>
    match mode.isNative, lib.kindOfName name with
    | true, .handle => mode.target.handleName
    | true, .bool => nativeBool
    | true, .structType | true, .classType => name ++ mode.target.recordSuffix
    | _, _ => name

/-- Where a marshaling annotation is attached. -/
inductive AttributePlace
  | field
  | param
  | returned
  deriving DecidableEq, Repr

/-- The arguments of the attribute for an annotation. -/
def Marshal.arguments (marshal : Marshal) : String :=
  "UnmanagedType." ++ marshal.kind ++
    (match marshal.sizeConst with
      | some size => ", SizeConst = " ++ toString size.toNat
      | none => "") ++
    (match marshal.sizeParamIndex with
      | some index => ", SizeParamIndex = " ++ toString index.toNat
      | none => "")

/-- The attribute for an annotation, on the native surface. -/
def marshalAttribute? (mode : Mode) (place : AttributePlace) (marshal : Option Marshal) :
    Option String :=
  if mode.isNative then
    marshal.map fun marshal =>
      "[" ++ (if place = .returned then "return: " else "") ++ "MarshalAs(" ++ marshal.arguments ++
        ")]"
  else none

end InteropGlue
