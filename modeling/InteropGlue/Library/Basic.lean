/-!
# Libraries

What is known of a native library: the functions it exports, the callbacks it accepts, and the
enums, structs and classes in their signatures. A library is independent of the document that
describes it and of the source that is generated for it.

## Main Definitions

* `TypeRef` — a reference to a type.
* `Marshal` — how a value is laid out for the native side.
* `Direction`, `Param`, `Function`, `Event` — signatures.
* `Field`, `Record`, `EnumMember`, `Enum` — declared types.
* `Library` — all declarations together.

## Design Notes

Structs and classes have one shape, `Record`, and stand in separate lists, because they cross the
boundary differently: a struct is a value in place, a class a reference to a caller's instance. The
size constant and the parameter index of a marshaling have the widths that the native attribute
gives them, so their bounds are part of the type.
-/

namespace InteropGlue

/-- A reference to a type, the same for both sides of the boundary. -/
inductive TypeRef
  /-- A primitive, a declared type, an alias or the handle. -/
  | named (name : String)
  /-- An array. A field may name a sibling field that holds the count of elements. -/
  | array (element : TypeRef) (count : Option String)
  deriving DecidableEq, Repr, Inhabited

namespace TypeRef

/-- The name of a type that is not an array. -/
def name? : TypeRef → Option String
  | .named name => some name
  | .array _ _ => none

/-- The name inside all array levels. -/
def innermost : TypeRef → String
  | .named name => name
  | .array element _ => element.innermost

/-- The number of array levels. -/
def depth : TypeRef → Nat
  | .named _ => 0
  | .array element _ => element.depth + 1

/-- The type is `void` itself. -/
def isVoid (type : TypeRef) : Bool := type.name? == some "void"

/-- The type is `bool` itself. -/
def isBool (type : TypeRef) : Bool := type.name? == some "bool"

/-- The type is `bool` or an array that holds `bool` at some depth. -/
def containsBool : TypeRef → Bool
  | .named name => name == "bool"
  | .array element _ => element.containsBool

/-- The type is a name that passes a test. -/
def isNamedAmong (type : TypeRef) (accepted : String → Bool) : Bool := type.name?.any accepted

end TypeRef

/-- A marshaling annotation: the kind of the unmanaged value and its sizes. -/
structure Marshal where
  kind : String
  sizeConst : Option UInt32
  sizeParamIndex : Option UInt16
  deriving DecidableEq, Repr

/-- The way a value takes through a parameter. -/
inductive Direction
  | input
  /-- Set by the callee. -/
  | output
  /-- Set by the caller, and possibly changed by the callee. -/
  | byRef
  /-- A buffer of the caller that the callee fills. -/
  | buffer
  deriving DecidableEq, Repr

/-- A parameter of a function or callback. -/
structure Param where
  name : String
  type : TypeRef
  direction : Direction
  marshal : Option Marshal
  deriving DecidableEq, Repr

namespace Param

/-- The parameter is only set by the callee. -/
def isOut (p : Param) : Bool := p.direction == .output

/-- The parameter is passed by reference. -/
def isRef (p : Param) : Bool := p.direction == .byRef

/-- The callee writes the parameter. -/
def isWritten (p : Param) : Bool := p.direction != .input

end Param

/-- A signature: an exported function, or the callback of an event. -/
structure Function where
  name : String
  returnType : TypeRef
  params : List Param
  returnMarshal : Option Marshal
  deriving DecidableEq, Repr

/-- The name of the parameter that identifies the virtual machine, the key of every conversion. -/
def machineParam : String := "vmid"

/-- The parameter that identifies the virtual machine. -/
def Function.machineParam? (f : Function) : Option Param :=
  f.params.find? (·.name == machineParam)

/-- A native callback, whose signature is `handler`. -/
structure Event where
  name : String
  handler : Function
  deriving DecidableEq, Repr

/-- The name of the entry point that registers the callback of an event. -/
def Event.registration (event : Event) : String := "Set" ++ event.name

/-- A field of a struct or class. -/
structure Field where
  name : String
  type : TypeRef
  marshal : Option Marshal
  deriving DecidableEq, Repr

/-- The field of the same record that holds the count of elements, for an array that names one. -/
def Field.countField? (field : Field) : Option String :=
  match field.type with
  | .array _ count => count
  | .named _ => none

/-- A struct or class. -/
structure Record where
  name : String
  fields : List Field
  deriving DecidableEq, Repr

/-- The first field with a name. -/
def Record.field? (record : Record) (name : String) : Option Field :=
  record.fields.find? (·.name == name)

/-- A member of an enum with the text of its value, which is kept as written. -/
structure EnumMember where
  name : String
  value : String
  deriving DecidableEq, Repr

/-- An enum. -/
structure Enum where
  name : String
  underlying : TypeRef
  isFlags : Bool
  members : List EnumMember
  deriving DecidableEq, Repr

/-- All declarations of a native library. -/
structure Library where
  functions : List Function
  events : List Event
  enums : List Enum
  structs : List Record
  classes : List Record
  /-- Names that stand for types of the framework. -/
  aliases : List String
  deriving DecidableEq, Repr, Inhabited

namespace Library

/-- The library without declarations. -/
def empty : Library :=
  { functions := [], events := [], enums := [], structs := [], classes := [], aliases := [] }

/-- The names of all declared types and aliases. -/
def typeNames (lib : Library) : List String :=
  lib.enums.map (·.name) ++ lib.structs.map (·.name) ++ lib.classes.map (·.name) ++ lib.aliases

/-- The names of all entry points: the functions, and the registrations of events. -/
def entryPointNames (lib : Library) : List String :=
  lib.functions.map (·.name) ++ lib.events.map (·.registration)

end Library

end InteropGlue
