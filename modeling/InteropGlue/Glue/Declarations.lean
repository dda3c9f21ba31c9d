import InteropGlue.CSharp.Syntax
import InteropGlue.Surface
/-!
# Declarations of a surface

Parameters, delegates, enums and records as a surface declares them. The surfaces differ in the
spelling of types and in marshaling annotations only.

## Main Definitions

* `Library.parameter`, `Library.signature` — the declared form of parameters and signatures.
* `Library.delegateOf` — a delegate type for a signature.
* `Library.enumDecl`, `Library.recordDecl` — declared types.
-/

namespace InteropGlue

open CSharp

/-- The attribute of records with native layout. -/
def structLayout : String := "[StructLayout(LayoutKind.Sequential, CharSet = CharSet.Unicode)]"

/-- The attribute of delegates that native code calls or provides. -/
def functionPointer : String :=
  "[UnmanagedFunctionPointer(CallingConvention.Cdecl, CharSet = CharSet.Unicode)]"

/-- How a parameter with a direction is passed. A buffer is passed by value. -/
def Direction.passing : Direction → Passing
  | .input | .buffer => .byValue
  | .output => .out
  | .byRef => .ref

namespace Library

variable (lib : Library) (mode : Mode)

/-- A parameter as a surface declares it. -/
def parameter (p : Param) : Parameter :=
  { marshal := marshalAttribute? mode .param p.marshal
    isBuffer := mode.isNative && p.direction == .buffer
    passing := p.direction.passing
    type := lib.typeName mode p.type
    name := p.name }

/-- The parameters of a function as a surface declares them. -/
def parameters (f : Function) : List Parameter := f.params.map (lib.parameter mode)

/-- The signature of a function under a name. -/
def signature (name : String) (f : Function) : Signature :=
  { returns := lib.typeName mode f.returnType, name, params := lib.parameters mode f }

/-- The delegate type for a function under a name. Natively it carries the calling convention and
the marshaling of the returned value. -/
def delegateOf (name : String) (f : Function) : Delegate :=
  { attributes :=
      (if mode.isNative then [functionPointer] else []) ++
        (marshalAttribute? mode .returned f.returnMarshal).toList
    signature := lib.signature mode name f }

/-- The delegate type of the handlers of an event. -/
def handlerDelegate (event : Event) : Delegate :=
  lib.delegateOf mode event.handler.name event.handler

/-- The declaration of an enum. -/
def enumDecl (enum : Enum) : TypeDecl :=
  { attributes := if enum.isFlags then ["[Flags]"] else []
    sort := .enum
    name := enum.name
    base := some (lib.typeName mode enum.underlying)
    body := enum.members.map fun member => .entry (.enumValue member.name member.value) }

/-- The value that a field has from the start. A class starts with instances in its class fields;
the fields of a struct cannot have such values. -/
def initialValue? (isClass : Bool) (field : Field) : Option Expr :=
  if isClass ∧ lib.kindOf field.type = .classType then
    some (.create (lib.typeName mode field.type) [])
  else none

/-- The declaration of a field. -/
def fieldMember (isClass : Bool) (field : Field) : Member :=
  .field (marshalAttribute? mode .field field.marshal).toList "public"
    (lib.typeName mode field.type) field.name (lib.initialValue? mode isClass field)

/-- The declaration of a struct or class. -/
def recordDecl (isClass : Bool) (record : Record) : TypeDecl :=
  { attributes := if mode.isNative then [structLayout] else []
    sort := if isClass then .plainClass else .struct
    name := lib.typeName mode (.named record.name)
    base := none
    body := record.fields.map fun field => .entry (lib.fieldMember mode isClass field) }

/-- The declarations of all structs and classes. -/
def recordDecls : List TypeDecl :=
  lib.structs.map (lib.recordDecl mode false) ++ lib.classes.map (lib.recordDecl mode true)

end Library

end InteropGlue
