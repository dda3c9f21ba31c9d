import InteropGlue.Library.TypeText
import InteropGlue.Schema.Basic
/-!
# Libraries of schemas

A schema is read as a library declaration by declaration, in order and without cross-references: a
name that means nothing is no obstacle here. What a declaration says in vain is reported as a
warning.

## Main Definitions

* `Schema.toLibrary` — the library of a schema.
* `Warning` — something that a declaration says in vain.
* `Schema.warnings` — the warnings of a schema, in declaration order.
-/

namespace InteropGlue

/-- Something that a declaration says in vain. -/
inductive Warning
  /-- A parameter declared as an input whose type is marked as by reference. -/
  | inputByRef (param : String)
  /-- A by-reference mark on the type of a field. -/
  | markOnField (owner field : String)
  /-- A count on a field that is not an array. -/
  | countOnScalar (owner field count : String)
  deriving DecidableEq, Repr

/-- The text of a warning, without the names it is about. -/
def Warning.message : Warning → String
  | .inputByRef _ => "by-reference type declared as `in`; treating as `ref`"
  | .markOnField _ _ => "by-reference marker ignored on field"
  | .countOnScalar _ _ _ => "count binding on non-array field ignored"

/-! ### Parameters, functions and events -/

/-- The direction of a parameter, from its declaration and the mark on its type. -/
def Direction.resolve (declared : Option Direction) (byRef : Bool) : Direction :=
  match declared, byRef with
  | none, false | some .input, false => .input
  | none, true | some .input, true => .byRef
  | some direction, _ => direction

/-- The parameter that a declaration states. -/
def ParamDecl.toParam (decl : ParamDecl) : Param :=
  let (type, byRef) := TypeRef.parse decl.type
  { name := decl.name
    type
    direction := Direction.resolve decl.direction byRef
    marshal := decl.marshal }

/-- The warnings of a parameter. -/
def ParamDecl.warnings (decl : ParamDecl) : List Warning :=
  if decl.direction = some .input ∧ (TypeRef.parse decl.type).2 then [.inputByRef decl.name] else []

/-- The function that a declaration states. -/
def FunctionDecl.toFunction (decl : FunctionDecl) : Function :=
  { name := decl.name
    returnType := (TypeRef.parse decl.returns).1
    params := decl.params.map ParamDecl.toParam
    returnMarshal := decl.returnMarshal }

/-- The event that a declaration states. Its handler returns nothing. -/
def EventDecl.toEvent (decl : EventDecl) : Event :=
  { name := decl.name
    handler :=
      { name := decl.name ++ "EventHandler"
        returnType := .named "void"
        params := decl.params.map ParamDecl.toParam
        returnMarshal := none } }

/-! ### Enums, structs and classes -/

/-- The enum that a declaration states. -/
def EnumDecl.toEnum (decl : EnumDecl) : Enum :=
  { name := decl.name
    underlying := (TypeRef.parse decl.underlying).1
    isFlags := decl.isFlags
    members := decl.members }

/-- A reference with a count bound to its outermost array level. -/
def TypeRef.bindCount (count : Option String) : TypeRef → TypeRef
  | .array element bound => .array element (count.or bound)
  | .named name => .named name

/-- The field that a declaration states. -/
def FieldDecl.toField (decl : FieldDecl) : Field :=
  { name := decl.name
    type := (TypeRef.parse decl.type).1.bindCount decl.count
    marshal := decl.marshal }

/-- The warnings of a field of `owner`. -/
def FieldDecl.warnings (owner : String) (decl : FieldDecl) : List Warning :=
  let (type, byRef) := TypeRef.parse decl.type
  (if byRef then [.markOnField owner decl.name] else []) ++
    match decl.count, type with
    | some count, .named _ => [.countOnScalar owner decl.name count]
    | _, _ => []

/-- The struct or class that a declaration states. -/
def RecordDecl.toRecord (decl : RecordDecl) : Record :=
  { name := decl.name, fields := decl.fields.map FieldDecl.toField }

/-- The warnings of a struct or class. -/
def RecordDecl.warnings (decl : RecordDecl) : List Warning :=
  decl.fields.flatMap (FieldDecl.warnings decl.name)

/-! ### Schemas -/

namespace Schema

/-- The library of a schema. -/
def toLibrary (schema : Schema) : Library :=
  { functions := schema.functions.map FunctionDecl.toFunction
    events := schema.events.map EventDecl.toEvent
    enums := schema.enums.map EnumDecl.toEnum
    structs := schema.structs.map RecordDecl.toRecord
    classes := schema.classes.map RecordDecl.toRecord
    aliases := schema.aliases.map (·.name) }

/-- The warnings of a schema, in declaration order. -/
def warnings (schema : Schema) : List Warning :=
  schema.functions.flatMap (fun decl => decl.params.flatMap ParamDecl.warnings) ++
    schema.events.flatMap (fun decl => decl.params.flatMap ParamDecl.warnings) ++
    schema.structs.flatMap RecordDecl.warnings ++ schema.classes.flatMap RecordDecl.warnings

end Schema

end InteropGlue
