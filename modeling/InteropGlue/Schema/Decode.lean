import InteropGlue.Schema.Basic
import InteropGlue.Schema.Fault
/-!
# Reading schemas

A schema is read from a tree of data. A record is a mapping with an entry for each field, in any
order and among other entries, or a sequence of its fields in declaration order. A field with a
default may be absent: from a mapping anywhere, from a sequence at the end.

## Main Definitions

* `RecordSource` — the two forms of a record.
* `RecordSource.required`, `RecordSource.withDefault` — a field by position and key.
* `Schema.ofDatum` — the schema that a tree of data states.

## Design Notes

One description of a record serves both forms, since each field is named by its position and its key
together. Fields are read in declaration order.
-/

namespace InteropGlue

/-- The outcome of reading a datum. -/
abbrev Reading (α : Type) := Except Fault α

/-! ### Plain data -/

/-- A text. -/
def readText : Datum → Reading String
  | .text value => .ok value
  | found => .error (.wrongSort found "a string")

/-- A path. -/
def readPath : Datum → Reading String
  | .text value => .ok value
  | found => .error (.wrongSort found "path string")

/-- A truth value. -/
def readBoolean : Datum → Reading Bool
  | .boolean value => .ok value
  | found => .error (.wrongSort found "a boolean")

/-- A natural number of 32 bits. -/
def readUInt32 : Datum → Reading UInt32
  | .integer value =>
    if 0 ≤ value ∧ value < UInt32.size then .ok (UInt32.ofNat value.toNat)
    else .error (.outOfRange value "u32")
  | found => .error (.wrongSort found "u32")

/-- A natural number of 16 bits. -/
def readUInt16 : Datum → Reading UInt16
  | .integer value =>
    if 0 ≤ value ∧ value < UInt16.size then .ok (UInt16.ofNat value.toNat)
    else .error (.outOfRange value "u16")
  | found => .error (.wrongSort found "u16")

/-- A value that may be absent. -/
def readOption {α : Type} (read : Datum → Reading α) : Datum → Reading (Option α)
  | .null => .ok none
  | datum => some <$> read datum

/-- A list of values. -/
def readList {α : Type} (read : Datum → Reading α) : Datum → Reading (List α)
  | .sequence items => items.mapM read
  | found => .error (.wrongSort found "a sequence")

/-- One of a list of words, each with its meaning. -/
def readWord {α : Type} (words : List (String × α)) : Datum → Reading α
  | .text word =>
    match words.lookup word with
    | some value => .ok value
    | none => .error (.unknownWord word (words.map Prod.fst))
  | found => .error (.wrongSort found "string or map")

/-! ### Records -/

/-- The name and the number of fields of a record, for messages. -/
structure RecordShape where
  name : String
  size : Nat

/-- A record in one of its two forms. -/
inductive RecordSource
  | keyed (entries : List Entry)
  | listed (items : List Datum)

namespace RecordSource

/-- The form in which a datum states a record. -/
def ofDatum (shape : RecordShape) : Datum → Reading RecordSource
  | .mapping entries => .ok (.keyed entries)
  | .sequence items => .ok (.listed items)
  | .moment _ => .ok (.keyed [])
  | found => .error (.wrongSort found ("struct " ++ shape.name))

/-- The datum of a field. -/
def field? (source : RecordSource) (position : Nat) (key : String) : Option Datum :=
  match source with
  | .keyed entries => entries.lookup key
  | .listed items => items[position]?

/-- A field that must be present. -/
def required {α : Type} (source : RecordSource) (shape : RecordShape) (position : Nat)
    (key : String) (read : Datum → Reading α) : Reading α :=
  match source.field? position key with
  | some datum => read datum
  | none =>
    match source with
    | .keyed _ => .error (.missingField key)
    | .listed _ => .error (.tooShort position shape.name shape.size)

/-- A field that has a default. -/
def withDefault {α : Type} (source : RecordSource) (position : Nat) (key : String)
    (default : α) (read : Datum → Reading α) : Reading α :=
  match source.field? position key with
  | some datum => read datum
  | none => .ok default

/-- A field that may be absent or null. -/
def optional {α : Type} (source : RecordSource) (position : Nat) (key : String)
    (read : Datum → Reading α) : Reading (Option α) :=
  source.withDefault position key none (readOption read)

/-- A list that is empty by default. -/
def list {α : Type} (source : RecordSource) (position : Nat) (key : String)
    (read : Datum → Reading α) : Reading (List α) :=
  source.withDefault position key [] (readList read)

end RecordSource

/-! ### Declarations -/

/-- The words for directions. -/
def directionWords : List (String × Direction) :=
  [("in", .input), ("out", .output), ("ref", .byRef), ("out_attr", .buffer)]

/-- The words for targets. -/
def targetWords : List (String × Target) := [("modern", .modern), ("legacy", .legacy)]

/-- A marshaling annotation. -/
def Marshal.ofDatum (datum : Datum) : Reading Marshal := do
  let shape : RecordShape := ⟨"MarshalConfig", 3⟩
  let source ← RecordSource.ofDatum shape datum
  return {
    kind := ← source.required shape 0 "kind" readText
    sizeConst := ← source.optional 1 "size_const" readUInt32
    sizeParamIndex := ← source.optional 2 "size_param_index" readUInt16 }

/-- An alias. -/
def AliasDecl.ofDatum (datum : Datum) : Reading AliasDecl := do
  let shape : RecordShape := ⟨"AliasConfig", 2⟩
  let source ← RecordSource.ofDatum shape datum
  return {
    name := ← source.required shape 0 "name" readText
    target := ← source.required shape 1 "target" readText }

/-- A parameter. -/
def ParamDecl.ofDatum (datum : Datum) : Reading ParamDecl := do
  let shape : RecordShape := ⟨"ParamConfig", 4⟩
  let source ← RecordSource.ofDatum shape datum
  return {
    name := ← source.required shape 0 "name" readText
    type := ← source.required shape 1 "type" readText
    direction := ← source.optional 2 "direction" (readWord directionWords)
    marshal := ← source.optional 3 "marshal" Marshal.ofDatum }

/-- A function. -/
def FunctionDecl.ofDatum (datum : Datum) : Reading FunctionDecl := do
  let shape : RecordShape := ⟨"FunctionConfig", 4⟩
  let source ← RecordSource.ofDatum shape datum
  return {
    name := ← source.required shape 0 "name" readText
    returns := ← source.withDefault 1 "returns" defaultReturns readText
    returnMarshal := ← source.optional 2 "return_marshal" Marshal.ofDatum
    params := ← source.list 3 "params" ParamDecl.ofDatum }

/-- An event. -/
def EventDecl.ofDatum (datum : Datum) : Reading EventDecl := do
  let shape : RecordShape := ⟨"EventConfig", 2⟩
  let source ← RecordSource.ofDatum shape datum
  return {
    name := ← source.required shape 0 "name" readText
    params := ← source.list 1 "params" ParamDecl.ofDatum }

/-- A member of an enum. -/
def EnumMember.ofDatum (datum : Datum) : Reading EnumMember := do
  let shape : RecordShape := ⟨"EnumMemberConfig", 2⟩
  let source ← RecordSource.ofDatum shape datum
  return {
    name := ← source.required shape 0 "name" readText
    value := ← source.required shape 1 "value" readText }

/-- An enum. -/
def EnumDecl.ofDatum (datum : Datum) : Reading EnumDecl := do
  let shape : RecordShape := ⟨"EnumConfig", 4⟩
  let source ← RecordSource.ofDatum shape datum
  return {
    name := ← source.required shape 0 "name" readText
    underlying := ← source.withDefault 1 "underlying" defaultUnderlying readText
    isFlags := ← source.withDefault 2 "flags" false readBoolean
    members := ← source.list 3 "members" EnumMember.ofDatum }

/-- A field of a struct or class. -/
def FieldDecl.ofDatum (datum : Datum) : Reading FieldDecl := do
  let shape : RecordShape := ⟨"FieldConfig", 4⟩
  let source ← RecordSource.ofDatum shape datum
  return {
    name := ← source.required shape 0 "name" readText
    type := ← source.required shape 1 "type" readText
    count := ← source.optional 2 "count" readText
    marshal := ← source.optional 3 "marshal" Marshal.ofDatum }

/-- A struct or class. -/
def RecordDecl.ofDatum (datum : Datum) : Reading RecordDecl := do
  let shape : RecordShape := ⟨"TypeConfig", 2⟩
  let source ← RecordSource.ofDatum shape datum
  return {
    name := ← source.required shape 0 "name" readText
    fields := ← source.list 1 "fields" FieldDecl.ofDatum }

/-- The file to generate. -/
def OutputDecl.ofDatum (datum : Datum) : Reading OutputDecl := do
  let shape : RecordShape := ⟨"OutputConfig", 6⟩
  let source ← RecordSource.ofDatum shape datum
  return {
    namespaceName := ← source.required shape 0 "namespace" readText
    library := ← source.withDefault 1 "library" defaultLibrary readText
    file := ← source.withDefault 2 "file" defaultFile readPath
    license := ← source.optional 3 "license" readText
    usings := ← source.withDefault 4 "usings" defaultUsings (readList readText)
    targets := ← source.withDefault 5 "targets" defaultTargets (readList (readWord targetWords)) }

/-- The schema that a tree of data states. -/
def Schema.ofDatum (datum : Datum) : Reading Schema := do
  let shape : RecordShape := ⟨"Schema", 7⟩
  let source ← RecordSource.ofDatum shape datum
  return {
    output := ← source.required shape 0 "output" OutputDecl.ofDatum
    aliases := ← source.list 1 "alias" AliasDecl.ofDatum
    functions := ← source.list 2 "function" FunctionDecl.ofDatum
    events := ← source.list 3 "event" EventDecl.ofDatum
    enums := ← source.list 4 "enum" EnumDecl.ofDatum
    structs := ← source.list 5 "struct" RecordDecl.ofDatum
    classes := ← source.list 6 "class" RecordDecl.ofDatum }

end InteropGlue
