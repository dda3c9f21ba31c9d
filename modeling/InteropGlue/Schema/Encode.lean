import InteropGlue.Schema.Decode
/-!
# Writing schemas

The tree of data in which every field of a schema is spelled out: each record is a mapping with all
its keys in declaration order, and an absent option is null.

## Main Definitions

* `Schema.toDatum` — the fully spelled tree of a schema.
-/

namespace InteropGlue

/-- A value that may be absent. -/
def writeOption {α : Type} (write : α → Datum) : Option α → Datum
  | some value => write value
  | none => .null

/-- A list of values. -/
def writeList {α : Type} (write : α → Datum) (values : List α) : Datum :=
  .sequence (values.map write)

/-- The word for a direction. -/
def Direction.word : Direction → String
  | .input => "in"
  | .output => "out"
  | .byRef => "ref"
  | .buffer => "out_attr"

/-- The tree of a marshaling annotation. -/
def Marshal.toDatum (marshal : Marshal) : Datum :=
  .mapping [
    ("kind", .text marshal.kind),
    ("size_const", writeOption (fun size => .integer size.toNat) marshal.sizeConst),
    ("size_param_index", writeOption (fun index => .integer index.toNat) marshal.sizeParamIndex)]

/-- The tree of an alias. -/
def AliasDecl.toDatum (decl : AliasDecl) : Datum :=
  .mapping [("name", .text decl.name), ("target", .text decl.target)]

/-- The tree of a parameter. -/
def ParamDecl.toDatum (decl : ParamDecl) : Datum :=
  .mapping [
    ("name", .text decl.name),
    ("type", .text decl.type),
    ("direction", writeOption (fun direction => .text direction.word) decl.direction),
    ("marshal", writeOption Marshal.toDatum decl.marshal)]

/-- The tree of a function. -/
def FunctionDecl.toDatum (decl : FunctionDecl) : Datum :=
  .mapping [
    ("name", .text decl.name),
    ("returns", .text decl.returns),
    ("return_marshal", writeOption Marshal.toDatum decl.returnMarshal),
    ("params", writeList ParamDecl.toDatum decl.params)]

/-- The tree of an event. -/
def EventDecl.toDatum (decl : EventDecl) : Datum :=
  .mapping [("name", .text decl.name), ("params", writeList ParamDecl.toDatum decl.params)]

/-- The tree of a member of an enum. -/
def EnumMember.toDatum (member : EnumMember) : Datum :=
  .mapping [("name", .text member.name), ("value", .text member.value)]

/-- The tree of an enum. -/
def EnumDecl.toDatum (decl : EnumDecl) : Datum :=
  .mapping [
    ("name", .text decl.name),
    ("underlying", .text decl.underlying),
    ("flags", .boolean decl.isFlags),
    ("members", writeList EnumMember.toDatum decl.members)]

/-- The tree of a field. -/
def FieldDecl.toDatum (decl : FieldDecl) : Datum :=
  .mapping [
    ("name", .text decl.name),
    ("type", .text decl.type),
    ("count", writeOption .text decl.count),
    ("marshal", writeOption Marshal.toDatum decl.marshal)]

/-- The tree of a struct or class. -/
def RecordDecl.toDatum (decl : RecordDecl) : Datum :=
  .mapping [("name", .text decl.name), ("fields", writeList FieldDecl.toDatum decl.fields)]

/-- The tree of the output declaration. -/
def OutputDecl.toDatum (decl : OutputDecl) : Datum :=
  .mapping [
    ("namespace", .text decl.namespaceName),
    ("library", .text decl.library),
    ("file", .text decl.file),
    ("license", writeOption .text decl.license),
    ("usings", writeList .text decl.usings),
    ("targets", writeList (fun target => .text target.label) decl.targets)]

/-- The fully spelled tree of a schema. -/
def Schema.toDatum (schema : Schema) : Datum :=
  .mapping [
    ("output", schema.output.toDatum),
    ("alias", writeList AliasDecl.toDatum schema.aliases),
    ("function", writeList FunctionDecl.toDatum schema.functions),
    ("event", writeList EventDecl.toDatum schema.events),
    ("enum", writeList EnumDecl.toDatum schema.enums),
    ("struct", writeList RecordDecl.toDatum schema.structs),
    ("class", writeList RecordDecl.toDatum schema.classes)]

end InteropGlue
