import Mathlib
import InteropGlue.Library.OfSchema
import InteropGlue.Proofs.Library.TypeTexts
/-!
# What is warned of

A schema can say things in vain: that an input is passed by reference, that something without a
direction is, and that a scalar has a count of elements. All of these are listed here from the types
that a schema writes, in declaration order, and compared with the warnings. The warnings are the
list without two of its cases: a by-reference mark on a return type and one on the underlying type
of an enum are dropped without a word, though neither changes the library.

## Main Definitions

* `TypePlace`, `Schema.writtenTypes` — the places of a schema where a type is written, with the
  texts.
* `Vain`, `Schema.vain` — what a schema says in vain.
* `Vain.warning?` — the warning of it, if there is one.
* `Schema.MarksApart` — schemas that differ only in marks that mean nothing.

## Main Results

* `Schema.warnings_eq` — the warnings are those of what is said in vain, in order.
* `Schema.MarksApart.toLibrary_eq` — schemas that differ only in such marks have one library.
* `Schema.warnings_exact` — both, and what the lack of warnings says about two such schemas.

## Design Notes

Two texts that differ in a mark are a text that has none and the same text with the mark behind it.
A mark cannot be taken off every text: behind a name that ends in the same character, the text that
is left would have another name and a mark.
-/

namespace InteropGlue

/-! ### The types that a schema writes -/

/-- A place of a schema where a type is written, with what else is said there. -/
inductive TypePlace
  | param (name : String) (direction : Option Direction)
  | returned (function : String)
  | underlying (enum : String)
  | field (owner name : String) (count : Option String)
  deriving DecidableEq, Repr

/-- The type of a parameter. -/
def ParamDecl.writtenType (decl : ParamDecl) : TypePlace × String :=
  (.param decl.name decl.direction, decl.type)

/-- The return type and the types of the parameters of a function. -/
def FunctionDecl.writtenTypes (decl : FunctionDecl) : List (TypePlace × String) :=
  (.returned decl.name, decl.returns) :: decl.params.map ParamDecl.writtenType

/-- The types of the fields of a struct or class. -/
def RecordDecl.writtenTypes (decl : RecordDecl) : List (TypePlace × String) :=
  decl.fields.map fun field => (.field decl.name field.name field.count, field.type)

/-- The types that a schema writes, in declaration order. -/
def Schema.writtenTypes (schema : Schema) : List (TypePlace × String) :=
  schema.functions.flatMap FunctionDecl.writtenTypes ++
    schema.events.flatMap (fun decl => decl.params.map ParamDecl.writtenType) ++
    schema.enums.map (fun decl => (.underlying decl.name, decl.underlying)) ++
    schema.structs.flatMap RecordDecl.writtenTypes ++
    schema.classes.flatMap RecordDecl.writtenTypes

/-! ### What is said in vain -/

/-- Something that a schema says in vain. -/
inductive Vain
  /-- A parameter is declared as an input and marked as by reference. -/
  | inputByRef (param : String)
  /-- A type is marked as by reference at a place that has no direction. -/
  | mark (place : TypePlace)
  /-- A field has a count of elements, and no elements. -/
  | countOnScalar (owner field count : String)
  deriving DecidableEq, Repr

/-- What is said in vain at a place with a type. -/
def TypePlace.vain (place : TypePlace) (type : TypeRef) (byRef : Bool) : List Vain :=
  match place with
  | .param name direction => if byRef ∧ direction = some .input then [.inputByRef name] else []
  | .returned _ | .underlying _ => if byRef then [.mark place] else []
  | .field owner name count =>
    (if byRef then [.mark place] else []) ++
      if type.depth = 0 then count.toList.map (.countOnScalar owner name) else []

/-- What a schema says in vain, in declaration order. -/
def Schema.vain (schema : Schema) : List Vain :=
  schema.writtenTypes.flatMap fun written =>
    written.1.vain (TypeRef.parse written.2).1 (TypeRef.parse written.2).2

/-- The warning of something said in vain. A mark on a return type or on the underlying type of an
enum has none. -/
def Vain.warning? : Vain → Option Warning
  | .inputByRef param => some (.inputByRef param)
  | .mark (.field owner name _) => some (.markOnField owner name)
  | .mark _ => none
  | .countOnScalar owner field count => some (.countOnScalar owner field count)

/-- The warnings at a place with the text of a type. -/
def writtenWarnings (written : TypePlace × String) : List Warning :=
  (written.1.vain (TypeRef.parse written.2).1 (TypeRef.parse written.2).2).filterMap Vain.warning?

theorem ParamDecl.warnings_eq (decl : ParamDecl) :
    decl.warnings = writtenWarnings decl.writtenType := by
  simp only [writtenWarnings, writtenType, TypePlace.vain, ParamDecl.warnings, and_comm]
  split <;> rfl

theorem FieldDecl.warnings_eq (owner : String) (decl : FieldDecl) :
    decl.warnings owner = writtenWarnings (.field owner decl.name decl.count, decl.type) := by
  simp only [writtenWarnings, TypePlace.vain, FieldDecl.warnings]
  cases (TypeRef.parse decl.type).1 <;> cases (TypeRef.parse decl.type).2 <;> cases decl.count <;>
    simp [TypeRef.depth, Vain.warning?]

theorem flatMap_warnings_eq (params : List ParamDecl) :
    params.flatMap ParamDecl.warnings =
      (params.map ParamDecl.writtenType).flatMap writtenWarnings := by
  rw [List.flatMap_map]
  exact List.flatMap_congr fun param _ => param.warnings_eq

/-- Of the types of a function, only those of its parameters are warned of. -/
theorem FunctionDecl.warnings_eq (decl : FunctionDecl) :
    decl.params.flatMap ParamDecl.warnings = decl.writtenTypes.flatMap writtenWarnings := by
  have silent : writtenWarnings (.returned decl.name, decl.returns) = [] := by
    simp only [writtenWarnings, TypePlace.vain]
    split <;> rfl
  rw [writtenTypes, List.flatMap_cons, silent, List.nil_append, flatMap_warnings_eq]

/-- The type of an enum is never warned of. -/
theorem EnumDecl.warnings_eq (decl : EnumDecl) :
    writtenWarnings (.underlying decl.name, decl.underlying) = [] := by
  simp only [writtenWarnings, TypePlace.vain]
  split <;> rfl

theorem RecordDecl.warnings_eq (decl : RecordDecl) :
    decl.warnings = decl.writtenTypes.flatMap writtenWarnings := by
  rw [RecordDecl.warnings, writtenTypes, List.flatMap_map]
  exact List.flatMap_congr fun field _ => field.warnings_eq decl.name

/-- The warnings of a schema are those of what it says in vain, in order. -/
theorem Schema.warnings_eq (schema : Schema) :
    schema.warnings = schema.vain.filterMap Vain.warning? := by
  have places : schema.vain.filterMap Vain.warning? = schema.writtenTypes.flatMap writtenWarnings :=
    List.filterMap_flatMap
  have enums :
      (schema.enums.map fun decl => (TypePlace.underlying decl.name, decl.underlying)).flatMap
        writtenWarnings = [] := by
    simp [List.flatMap_map, EnumDecl.warnings_eq]
  simp only [places, writtenTypes, Schema.warnings, List.flatMap_append, List.flatMap_assoc, enums,
    List.append_nil, ← FunctionDecl.warnings_eq, ← RecordDecl.warnings_eq, ← flatMap_warnings_eq]

/-! ### Schemas that differ in marks -/

/-- Two texts of types that are the same, or one of which is the other one, without by-reference
mark, and the mark behind it. -/
inductive TypeRef.MarkApart : String → String → Prop
  | same (text : String) : TypeRef.MarkApart text text
  | added {text : String} (unmarked : (TypeRef.parse text).2 = false) :
    TypeRef.MarkApart text (text ++ "&")
  | removed {text : String} (unmarked : (TypeRef.parse text).2 = false) :
    TypeRef.MarkApart (text ++ "&") text

theorem TypeRef.MarkApart.parse_fst {text other : String} (apart : TypeRef.MarkApart text other) :
    (TypeRef.parse text).1 = (TypeRef.parse other).1 := by
  cases apart with
  | same => rfl
  | added unmarked => rw [TypeRef.parse_append_mark unmarked]
  | removed unmarked => rw [TypeRef.parse_append_mark unmarked]

theorem TypeRef.MarkApart.eq_of_unmarked {text other : String}
    (apart : TypeRef.MarkApart text other) (unmarked : (TypeRef.parse text).2 = false)
    (otherUnmarked : (TypeRef.parse other).2 = false) : text = other := by
  cases apart with
  | same => rfl
  | added first => simp [TypeRef.parse_append_mark first] at otherUnmarked
  | removed first => simp [TypeRef.parse_append_mark first] at unmarked

/-- Two functions that differ at most in the mark on what they return. -/
def FunctionDecl.MarkApart (decl other : FunctionDecl) : Prop :=
  TypeRef.MarkApart decl.returns other.returns ∧ other = { decl with returns := other.returns }

/-- Two enums that differ at most in the mark on their underlying types. -/
def EnumDecl.MarkApart (decl other : EnumDecl) : Prop :=
  TypeRef.MarkApart decl.underlying other.underlying ∧
    other = { decl with underlying := other.underlying }

/-- Two fields that differ at most in the mark on their types. -/
def FieldDecl.MarkApart (decl other : FieldDecl) : Prop :=
  TypeRef.MarkApart decl.type other.type ∧ other = { decl with type := other.type }

/-- Two structs or classes that differ at most in the marks on the types of their fields. -/
def RecordDecl.MarksApart (decl other : RecordDecl) : Prop :=
  decl.name = other.name ∧ List.Forall₂ FieldDecl.MarkApart decl.fields other.fields

/-- Two schemas that differ at most in by-reference marks at places without a direction: on return
types, on underlying types of enums and on types of fields. -/
structure Schema.MarksApart (schema other : Schema) : Prop where
  output : schema.output = other.output
  aliases : schema.aliases = other.aliases
  functions : List.Forall₂ FunctionDecl.MarkApart schema.functions other.functions
  events : schema.events = other.events
  enums : List.Forall₂ EnumDecl.MarkApart schema.enums other.enums
  structs : List.Forall₂ RecordDecl.MarksApart schema.structs other.structs
  classes : List.Forall₂ RecordDecl.MarksApart schema.classes other.classes

theorem map_eq_of_forall₂ {α β : Type} {R : α → α → Prop} {as bs : List α}
    (each : List.Forall₂ R as bs) (f : α → β) (same : ∀ {a b}, R a b → f a = f b) :
    as.map f = bs.map f := by
  induction each with
  | nil => rfl
  | cons first _ ih => rw [List.map_cons, List.map_cons, same first, ih]

theorem eq_of_forall₂ {α : Type} {R : α → α → Prop} {as bs : List α} (each : List.Forall₂ R as bs)
    (same : ∀ a ∈ as, ∀ b ∈ bs, R a b → a = b) : as = bs := by
  induction each with
  | nil => rfl
  | cons first _ ih =>
    rw [same _ List.mem_cons_self _ List.mem_cons_self first,
      ih fun a isA b isB => same a (List.mem_cons_of_mem _ isA) b (List.mem_cons_of_mem _ isB)]

theorem FunctionDecl.MarkApart.toFunction_eq {decl other : FunctionDecl}
    (apart : decl.MarkApart other) : decl.toFunction = other.toFunction := by
  rw [apart.2]
  simp only [FunctionDecl.toFunction, apart.1.parse_fst]

theorem EnumDecl.MarkApart.toEnum_eq {decl other : EnumDecl} (apart : decl.MarkApart other) :
    decl.toEnum = other.toEnum := by
  rw [apart.2]
  simp only [EnumDecl.toEnum, apart.1.parse_fst]

theorem FieldDecl.MarkApart.toField_eq {decl other : FieldDecl} (apart : decl.MarkApart other) :
    decl.toField = other.toField := by
  rw [apart.2]
  simp only [FieldDecl.toField, apart.1.parse_fst]

theorem RecordDecl.MarksApart.toRecord_eq {decl other : RecordDecl}
    (apart : decl.MarksApart other) : decl.toRecord = other.toRecord := by
  have fields : decl.fields.map FieldDecl.toField = other.fields.map FieldDecl.toField :=
    map_eq_of_forall₂ apart.2 _ FieldDecl.MarkApart.toField_eq
  rw [RecordDecl.toRecord, RecordDecl.toRecord, apart.1, fields]

/-- Marks at places without a direction make no difference to the library. -/
theorem Schema.MarksApart.toLibrary_eq {schema other : Schema} (apart : schema.MarksApart other) :
    schema.toLibrary = other.toLibrary := by
  have functions : schema.functions.map FunctionDecl.toFunction =
      other.functions.map FunctionDecl.toFunction :=
    map_eq_of_forall₂ apart.functions _ FunctionDecl.MarkApart.toFunction_eq
  have enums : schema.enums.map EnumDecl.toEnum = other.enums.map EnumDecl.toEnum :=
    map_eq_of_forall₂ apart.enums _ EnumDecl.MarkApart.toEnum_eq
  have structs : schema.structs.map RecordDecl.toRecord = other.structs.map RecordDecl.toRecord :=
    map_eq_of_forall₂ apart.structs _ RecordDecl.MarksApart.toRecord_eq
  have classes : schema.classes.map RecordDecl.toRecord = other.classes.map RecordDecl.toRecord :=
    map_eq_of_forall₂ apart.classes _ RecordDecl.MarksApart.toRecord_eq
  rw [Schema.toLibrary, Schema.toLibrary, apart.aliases, apart.events, functions, enums, structs,
    classes]

/-! ### What the lack of warnings says -/

/-- The declarations of records have no by-reference mark on the type of a field. -/
def UnmarkedFields (decls : List RecordDecl) : Prop :=
  ∀ decl ∈ decls, ∀ field ∈ decl.fields, (TypeRef.parse field.type).2 = false

theorem unmarkedFields_of_warnings {decls : List RecordDecl}
    (silent : decls.flatMap RecordDecl.warnings = []) : UnmarkedFields decls := by
  intro decl declared field isField
  have nothing : field.warnings decl.name = [] :=
    List.flatMap_eq_nil_iff.mp (List.flatMap_eq_nil_iff.mp silent decl declared) field isField
  rw [FieldDecl.warnings, List.append_eq_nil_iff] at nothing
  simpa using nothing.1

theorem eq_of_unmarkedFields {decls others : List RecordDecl}
    (apart : List.Forall₂ RecordDecl.MarksApart decls others) (unmarked : UnmarkedFields decls)
    (othersUnmarked : UnmarkedFields others) : decls = others := by
  refine eq_of_forall₂ apart fun decl declared other otherDeclared pair => ?_
  have fields : decl.fields = other.fields := by
    refine eq_of_forall₂ pair.2 fun field isField otherField isOther fieldsApart => ?_
    have sameType := fieldsApart.1.eq_of_unmarked (unmarked decl declared field isField)
      (othersUnmarked other otherDeclared otherField isOther)
    rw [fieldsApart.2, ← sameType]
  cases decl
  cases other
  simp_all [RecordDecl.MarksApart]

/-- No return type and no underlying type of an enum has a by-reference mark. -/
structure Schema.NoSilentMark (schema : Schema) : Prop where
  returns : ∀ decl ∈ schema.functions, (TypeRef.parse decl.returns).2 = false
  underlying : ∀ decl ∈ schema.enums, (TypeRef.parse decl.underlying).2 = false

theorem Schema.returned_mem_writtenTypes {schema : Schema} {name text : String} :
    (.returned name, text) ∈ schema.writtenTypes ↔
      ∃ decl ∈ schema.functions, decl.name = name ∧ decl.returns = text := by
  simp [writtenTypes, FunctionDecl.writtenTypes, RecordDecl.writtenTypes, ParamDecl.writtenType,
    eq_comm]

theorem Schema.underlying_mem_writtenTypes {schema : Schema} {name text : String} :
    (.underlying name, text) ∈ schema.writtenTypes ↔
      ∃ decl ∈ schema.enums, decl.name = name ∧ decl.underlying = text := by
  simp [writtenTypes, FunctionDecl.writtenTypes, RecordDecl.writtenTypes, ParamDecl.writtenType]

/-- A mark at the place means nothing and is not warned of. -/
def TypePlace.IsSilent : TypePlace → Prop
  | .returned _ | .underlying _ => True
  | .param _ _ | .field _ _ _ => False

/-- All that is said in vain at a place has a warning, unless it is a mark at a silent place. -/
theorem TypePlace.warned_iff {place : TypePlace} {type : TypeRef} {byRef : Bool} :
    (∀ vain ∈ place.vain type byRef, vain.warning?.isSome = true) ↔
      (place.IsSilent → byRef = false) := by
  cases place with
  | param name direction => grind [TypePlace.vain, TypePlace.IsSilent, Vain.warning?]
  | returned function => cases byRef <;> simp [TypePlace.vain, TypePlace.IsSilent, Vain.warning?]
  | underlying enum => cases byRef <;> simp [TypePlace.vain, TypePlace.IsSilent, Vain.warning?]
  | field owner name count => grind [TypePlace.vain, TypePlace.IsSilent, Vain.warning?]

/-- Everything that is said in vain has a warning exactly if there is no mark on a return type or on
the underlying type of an enum. -/
theorem Schema.warned_iff (schema : Schema) :
    (∀ vain ∈ schema.vain, vain.warning?.isSome = true) ↔ schema.NoSilentMark := by
  have places : (∀ vain ∈ schema.vain, vain.warning?.isSome = true) ↔
      ∀ written ∈ schema.writtenTypes, written.1.IsSilent →
        (TypeRef.parse written.2).2 = false := by
    simp only [Schema.vain, List.forall_mem_flatMap, TypePlace.warned_iff]
  rw [places]
  constructor
  · intro unmarked
    constructor
    · intro decl declared
      have isWritten := returned_mem_writtenTypes.mpr ⟨decl, declared, rfl, rfl⟩
      exact unmarked (.returned decl.name, decl.returns) isWritten trivial
    · intro decl declared
      have isWritten := underlying_mem_writtenTypes.mpr ⟨decl, declared, rfl, rfl⟩
      exact unmarked (.underlying decl.name, decl.underlying) isWritten trivial
  · rintro unmarked ⟨place, text⟩ isWritten silent
    cases place with
    | returned name =>
      obtain ⟨decl, declared, -, rfl⟩ := returned_mem_writtenTypes.mp isWritten
      exact unmarked.returns decl declared
    | underlying name =>
      obtain ⟨decl, declared, -, rfl⟩ := underlying_mem_writtenTypes.mp isWritten
      exact unmarked.underlying decl declared
    | param => exact silent.elim
    | field => exact silent.elim

/-- The warnings of a schema are, in declaration order, those of what it says in vain, and
everything has one but a mark on a return type or on the underlying type of an enum. Schemas that
differ only in marks at places without a direction have one library. If they have no warnings, they
do not differ in fields, and not at all if neither has a mark that is not warned of. -/
theorem Schema.warnings_exact (schema : Schema) :
    schema.warnings = schema.vain.filterMap Vain.warning? ∧
      ((∀ vain ∈ schema.vain, vain.warning?.isSome = true) ↔ schema.NoSilentMark) ∧
      ∀ other : Schema, schema.MarksApart other →
        schema.toLibrary = other.toLibrary ∧
        (schema.warnings = [] → other.warnings = [] →
          schema.structs = other.structs ∧ schema.classes = other.classes ∧
          (schema.NoSilentMark → other.NoSilentMark → schema = other)) := by
  refine ⟨schema.warnings_eq, schema.warned_iff, fun other apart => ?_⟩
  refine ⟨apart.toLibrary_eq, fun silent otherSilent => ?_⟩
  simp only [Schema.warnings, List.append_eq_nil_iff] at silent otherSilent
  have structs := eq_of_unmarkedFields apart.structs (unmarkedFields_of_warnings silent.1.2)
    (unmarkedFields_of_warnings otherSilent.1.2)
  have classes := eq_of_unmarkedFields apart.classes (unmarkedFields_of_warnings silent.2)
    (unmarkedFields_of_warnings otherSilent.2)
  refine ⟨structs, classes, fun unmarked otherUnmarked => ?_⟩
  have functions : schema.functions = other.functions := by
    refine eq_of_forall₂ apart.functions fun decl declared decl' declared' pair => ?_
    have sameType := pair.1.eq_of_unmarked (unmarked.returns decl declared)
      (otherUnmarked.returns decl' declared')
    rw [pair.2, ← sameType]
  have enums : schema.enums = other.enums := by
    refine eq_of_forall₂ apart.enums fun decl declared decl' declared' pair => ?_
    have sameType := pair.1.eq_of_unmarked (unmarked.underlying decl declared)
      (otherUnmarked.underlying decl' declared')
    rw [pair.2, ← sameType]
  have output := apart.output
  have aliases := apart.aliases
  have events := apart.events
  cases schema
  cases other
  simp_all

namespace Sample

/-- A schema with a function that returns a given type, and a struct with a counted array. -/
def counting (returns : String) : Schema :=
  { output :=
      { namespaceName := "Demo", library := "Demo", file := "Demo.cs", license := none, usings := []
        targets := [.modern] }
    aliases := []
    functions := [⟨"GetCount", returns, none, []⟩]
    events := []
    enums := []
    structs := [⟨"Sizes", [⟨"count", "int", none, none⟩, ⟨"sizes", "int[]", some "count", none⟩]⟩]
    classes := [] }

/-- The two schemas differ in one mark. -/
theorem counting_marksApart : (counting "int").MarksApart (counting "int&") :=
  have unmarked : (TypeRef.parse "int").2 = false := by cbv
  have returns : TypeRef.MarkApart "int" "int&" := .added unmarked
  { output := rfl
    aliases := rfl
    functions := .cons ⟨returns, rfl⟩ .nil
    events := rfl
    enums := .nil
    structs := .cons ⟨rfl, .cons ⟨.same _, rfl⟩ (.cons ⟨.same _, rfl⟩ .nil)⟩ .nil
    classes := .nil }

/-- The schemas have one library, no warnings and the same structs. With the mark taken out of the
second one they are the same. -/
theorem counting_structs_eq :
    (counting "int").MarksApart (counting "int&") ∧
      (counting "int").warnings = [] ∧ (counting "int&").warnings = [] ∧
      (counting "int").toLibrary = (counting "int&").toLibrary ∧
      (counting "int").structs = (counting "int&").structs ∧
      (counting "int").MarksApart (counting "int") ∧ (counting "int").NoSilentMark ∧
      counting "int" = counting "int" := by
  have silent : (counting "int").warnings = [] := by cbv
  have silentMark : (counting "int&").warnings = [] := by cbv
  have same : (counting "int").MarksApart (counting "int") :=
    { output := rfl
      aliases := rfl
      functions := .cons ⟨.same _, rfl⟩ .nil
      events := rfl
      enums := .nil
      structs := .cons ⟨rfl, .cons ⟨.same _, rfl⟩ (.cons ⟨.same _, rfl⟩ .nil)⟩ .nil
      classes := .nil }
  have unmarked : (counting "int").NoSilentMark :=
    { returns := by simp only [counting, List.forall_mem_singleton]; cbv
      underlying := by simp [counting] }
  obtain ⟨library, unwarned⟩ := (Schema.warnings_exact (counting "int")).2.2 _ counting_marksApart
  obtain ⟨-, rest⟩ := (Schema.warnings_exact (counting "int")).2.2 _ same
  exact ⟨counting_marksApart, silent, silentMark, library, (unwarned silent silentMark).1, same,
    unmarked, (rest silent silent).2.2 unmarked unmarked⟩

/-- A mark on a return type is said in vain and not warned of. It is all that distinguishes two
schemas without warnings, and they give one library. -/
theorem counting_mark_unnoticed :
    (counting "int&").vain = [.mark (.returned "GetCount")] ∧
      (counting "int").warnings = [] ∧ (counting "int&").warnings = [] ∧
      (counting "int").MarksApart (counting "int&") ∧ counting "int" ≠ counting "int&" ∧
      (counting "int").toLibrary = (counting "int&").toLibrary := by
  refine ⟨?_, ?_, ?_, counting_marksApart, by decide, ?_⟩
  · cbv
  · cbv
  · cbv
  · cbv

end Sample

end InteropGlue
