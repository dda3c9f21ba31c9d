import InteropGlue.Proofs.Library.Agreement
import InteropGlue.Proofs.Library.Meaning
/-!
# Libraries with one more declaration

A declaration under a new name is added to an accepted library, at any place of its list. No type
that occurs in the library has the new name, since every type there means something and the new name
meant nothing. Two facts follow.

* **Nothing changes its meaning.** The library before and after agree on all types that occur.
* **Nothing else is at fault.** What was declared before keeps no defect, and no chain of structs
  that starts at one of them comes to the new one. All defects are those of the new declaration.

## Main Definitions

* `Inserts` — a list is another one with a value inserted.
* `Addition`, `Library.Adds` — a new declaration, and a library with it.
* `Library.Fresh` — a name that means nothing yet.
* `Library.occurring` — the types that occur in a library.
* `Library.additionDefects`, `Library.SoundAlone` — what the check finds in the new declaration, and
  what is demanded of it.

## Main Results

* `Library.Adds.agreeOn` — the libraries agree on a type that does not have the new name inside.
* `Library.Adds.defects_eq` — the defects of the larger library are those of the new declaration.
* `Library.Adds.accepted_iff` — the larger library is accepted if the new declaration is sound.
-/

namespace InteropGlue

open Relation

/-! ### Lists with a value inserted -/

/-- A list is another one with a value inserted at some position. -/
def Inserts {α : Type} (value : α) (values larger : List α) : Prop :=
  ∃ before after, values = before ++ after ∧ larger = before ++ value :: after

namespace Inserts

variable {α β : Type} {value : α} {values larger : List α}

theorem perm (inserts : Inserts value values larger) : larger.Perm (value :: values) := by
  obtain ⟨before, after, rfl, rfl⟩ := inserts
  exact List.perm_middle

theorem mem_iff (inserts : Inserts value values larger) {other : α} :
    other ∈ larger ↔ other = value ∨ other ∈ values := by
  rw [inserts.perm.mem_iff, List.mem_cons]

theorem map (inserts : Inserts value values larger) (f : α → β) :
    Inserts (f value) (values.map f) (larger.map f) := by
  obtain ⟨before, after, rfl, rfl⟩ := inserts
  exact ⟨before.map f, after.map f, List.map_append, List.map_append⟩

theorem append_left (inserts : Inserts value values larger) (front : List α) :
    Inserts value (front ++ values) (front ++ larger) := by
  obtain ⟨before, after, rfl, rfl⟩ := inserts
  exact ⟨front ++ before, after, by simp, by simp⟩

theorem append_right (inserts : Inserts value values larger) (back : List α) :
    Inserts value (values ++ back) (larger ++ back) := by
  obtain ⟨before, after, rfl, rfl⟩ := inserts
  exact ⟨before, after ++ back, by simp, by simp⟩

/-- What is made of all values is made of the new one alone, if nothing is made of the others. -/
theorem flatMap_eq (inserts : Inserts value values larger) {f : α → List β}
    (nothing : ∀ other ∈ values, f other = []) : larger.flatMap f = f value := by
  obtain ⟨before, after, rfl, rfl⟩ := inserts
  rw [List.forall_mem_append] at nothing
  rw [List.flatMap_append, List.flatMap_cons, List.flatMap_eq_nil_iff.mpr nothing.1,
    List.flatMap_eq_nil_iff.mpr nothing.2, List.nil_append, List.append_nil]

end Inserts

/-! ### New declarations -/

/-- A declaration of a type or alias. -/
inductive Addition
  | enumType (enum : Enum)
  | structType (record : Record)
  | classType (record : Record)
  | external (name : String)

namespace Addition

/-- The declared name. -/
def name : Addition → String
  | .enumType enum => enum.name
  | .structType record | .classType record => record.name
  | .external name => name

/-- What the declaration makes of its name. -/
def kind : Addition → Kind
  | .enumType _ => .enumType
  | .structType _ => .structType
  | .classType _ => .classType
  | .external _ => .external

/-- A place is in the declaration. -/
def Owns : Addition → Place → Prop
  | .enumType enum, .enumType name => name = enum.name
  | .structType record, .field name .structSort owner
  | .classType record, .field name .classSort owner =>
    owner = record.name ∧ name ∈ record.fields.map (·.name)
  | _, _ => False

end Addition

namespace Library

/-- A library is another one with a declaration inserted into its list. -/
inductive Adds (lib : Library) : Addition → Library → Prop
  | enumType {enum : Enum} {enums : List Enum} (inserts : Inserts enum lib.enums enums) :
    lib.Adds (.enumType enum) { lib with enums }
  | structType {record : Record} {structs : List Record}
    (inserts : Inserts record lib.structs structs) :
    lib.Adds (.structType record) { lib with structs }
  | classType {record : Record} {classes : List Record}
    (inserts : Inserts record lib.classes classes) :
    lib.Adds (.classType record) { lib with classes }
  | external {name : String} {aliases : List String}
    (inserts : Inserts name lib.aliases aliases) : lib.Adds (.external name) { lib with aliases }

/-- A name that is not declared and has no meaning of its own. -/
structure Fresh (lib : Library) (name : String) : Prop where
  undeclared : name ∉ lib.typeNames
  notPrimitive : ¬ IsPrimitive name
  notHandle : name ≠ handleType
  notFramework : name ∉ frameworkTypes

/-- The types that occur in a library: those that it declares, and those in its enums, structs,
classes and signatures. -/
def occurring (lib : Library) : List TypeRef :=
  lib.typeNames.map .named ++ lib.enums.map (·.underlying) ++
    (lib.structs ++ lib.classes).flatMap Record.types ++ lib.signatures.flatMap Function.types

/-- The defects of a declaration that was added to a library. -/
def additionDefects (lib : Library) : Addition → List Defect
  | .enumType enum => enumDefects enum
  | .structType record => lib.recordDefects .structSort record
  | .classType record => lib.recordDefects .classSort record
  | .external _ => []

/-- What a sound library demands of one declaration with a name of its own. -/
def SoundAlone (lib : Library) : Addition → Prop
  | .enumType enum => enum.underlying.IsInteger
  | .structType record =>
    (∀ field ∈ record.fields, lib.Resolves field.type ∧ CountBound record field) ∧
      ¬ TransGen lib.Holds record.name record.name
  | .classType record => ∀ field ∈ record.fields, lib.Resolves field.type ∧ CountBound record field
  | .external _ => True

variable {lib larger : Library} {addition : Addition}

theorem mem_occurring_of_declared {name : String} (declared : name ∈ lib.typeNames) :
    .named name ∈ lib.occurring := by
  unfold occurring
  apply List.mem_append_left
  apply List.mem_append_left
  exact List.mem_append_left _ (List.mem_map_of_mem declared)

theorem mem_occurring_of_enum {enum : Enum} (declared : enum ∈ lib.enums) :
    enum.underlying ∈ lib.occurring := by
  unfold occurring
  apply List.mem_append_left
  apply List.mem_append_left
  exact List.mem_append_right _ (List.mem_map_of_mem declared)

theorem mem_occurring_of_record {record : Record} (declared : record ∈ lib.structs ++ lib.classes)
    {type : TypeRef} (inside : type ∈ record.types) : type ∈ lib.occurring := by
  unfold occurring
  apply List.mem_append_left
  exact List.mem_append_right _ (List.mem_flatMap.mpr ⟨record, declared, inside⟩)

theorem mem_occurring_of_signature {f : Function} (declared : f ∈ lib.signatures) {type : TypeRef}
    (inside : type ∈ f.types) : type ∈ lib.occurring := by
  unfold occurring
  exact List.mem_append_right _ (List.mem_flatMap.mpr ⟨f, declared, inside⟩)

theorem mem_typeNames_of_record {record : Record} (declared : record ∈ lib.structs ++ lib.classes) :
    record.name ∈ lib.typeNames := by
  rcases List.mem_append.mp declared with isStruct | isClass
  · have declares : lib.Declares record.name .structType := List.mem_map_of_mem isStruct
    exact declares.mem_typeNames
  · have declares : lib.Declares record.name .classType := List.mem_map_of_mem isClass
    exact declares.mem_typeNames

/-! ### Names before and after -/

/-- A fresh name means nothing. -/
theorem Fresh.kindOfName_eq {name : String} (fresh : lib.Fresh name) :
    lib.kindOfName name = .unknown := by
  by_contra known
  have means := mayMean_kindOfName known
  generalize lib.kindOfName name = kind at means
  cases means with
  | builtIn isBuiltIn =>
    rcases exists_builtIn_iff.mp ⟨_, isBuiltIn⟩ with isHandle | isPrimitive
    · exact fresh.notHandle isHandle
    · exact fresh.notPrimitive isPrimitive
  | declared declares => exact fresh.undeclared declares.mem_typeNames
  | framework isFramework => exact fresh.notFramework isFramework

/-- In an accepted library no type has a fresh name inside. -/
theorem Accepted.innermost_ne (accepted : lib.Accepted) {name : String} (fresh : lib.Fresh name)
    {type : TypeRef} (occurs : type ∈ lib.occurring) : type.innermost ≠ name := by
  have sound := accepted.sound
  suffices known : type.innermost ∈ lib.typeNames ∨ lib.kindOfName type.innermost ≠ .unknown by
    rintro rfl
    rcases known with declared | known
    · exact fresh.undeclared declared
    · exact known fresh.kindOfName_eq
  simp only [occurring, List.mem_append, List.mem_map, List.mem_flatMap] at occurs
  rcases occurs with
    ((⟨name, declared, rfl⟩ | ⟨enum, declared, rfl⟩) | ⟨record, declared, inside⟩) |
      ⟨f, declared, inside⟩
  · exact .inl declared
  · obtain ⟨name, isInteger, type⟩ := sound.enum_integer enum declared
    rw [type, TypeRef.innermost, kindOfName_of_integer isInteger]
    exact .inr (by simp)
  · obtain ⟨field, isField, rfl⟩ := List.mem_map.mp inside
    exact .inr (sound.field_resolves record (List.mem_append.mpr declared) field isField).1
  · rcases List.mem_cons.mp inside with rfl | isParamType
    · exact .inr (sound.return_resolves f declared).1
    · obtain ⟨p, isParam, rfl⟩ := List.mem_map.mp isParamType
      exact .inr (sound.param_resolves f declared p isParam).1

/-- The kind of a name is settled by what declares it. -/
theorem kindOfName_of_declares_iff {lib other : Library} {name : String}
    (same : ∀ kind, lib.Declares name kind ↔ other.Declares name kind) :
    lib.kindOfName name = other.kindOfName name := by
  have isStruct : (lib.struct? name).isSome = (other.struct? name).isSome := by
    rw [Bool.eq_iff_iff, isSome_struct?_iff, isSome_struct?_iff, same]
  have isClass : (lib.class? name).isSome = (other.class? name).isSome := by
    rw [Bool.eq_iff_iff, isSome_class?_iff, isSome_class?_iff, same]
  have isEnum : lib.enums.any (·.name == name) = other.enums.any (·.name == name) := by
    rw [Bool.eq_iff_iff, any_enum_iff, any_enum_iff, same]
  have isExternal : (lib.aliases.contains name || frameworkTypes.contains name) =
      (other.aliases.contains name || frameworkTypes.contains name) := by
    rw [Bool.eq_iff_iff, contains_external_iff, contains_external_iff, same]
  unfold kindOfName
  rw [isStruct, isClass, isEnum, isExternal]

namespace Adds

theorem declaredAs_kind (added : lib.Adds addition larger) :
    Inserts addition.name (lib.declaredAs addition.kind) (larger.declaredAs addition.kind) := by
  cases added with
  | enumType inserts => exact inserts.map Enum.name
  | structType inserts => exact inserts.map Record.name
  | classType inserts => exact inserts.map Record.name
  | external inserts => exact inserts

theorem declaredAs_of_ne (added : lib.Adds addition larger) {kind : Kind}
    (apart : kind ≠ addition.kind) : larger.declaredAs kind = lib.declaredAs kind := by
  cases added with
  | enumType =>
    cases kind with
    | enumType => exact absurd rfl apart
    | _ => rfl
  | structType =>
    cases kind with
    | structType => exact absurd rfl apart
    | _ => rfl
  | classType =>
    cases kind with
    | classType => exact absurd rfl apart
    | _ => rfl
  | external =>
    cases kind with
    | external => exact absurd rfl apart
    | _ => rfl

theorem typeNames (added : lib.Adds addition larger) :
    Inserts addition.name lib.typeNames larger.typeNames := by
  have inserts := added.declaredAs_kind
  unfold Library.typeNames
  cases added with
  | enumType => exact ((inserts.append_right _).append_right _).append_right _
  | structType => exact ((inserts.append_left _).append_right _).append_right _
  | classType => exact (inserts.append_left _).append_right _
  | external => exact inserts.append_left _

theorem functions_eq (added : lib.Adds addition larger) : larger.functions = lib.functions := by
  cases added <;> rfl

theorem events_eq (added : lib.Adds addition larger) : larger.events = lib.events := by
  cases added <;> rfl

/-- What is declared after is declared before, or new. -/
theorem declares_iff (added : lib.Adds addition larger) {name : String} {kind : Kind} :
    larger.Declares name kind ↔
      (name = addition.name ∧ kind = addition.kind) ∨ lib.Declares name kind := by
  unfold Declares
  by_cases same : kind = addition.kind
  · subst same
    rw [added.declaredAs_kind.mem_iff, and_iff_left rfl]
  · rw [added.declaredAs_of_ne same]
    exact (or_iff_right fun new => same new.2).symm

/-- The libraries before and after agree on a type that does not have the new name inside. -/
theorem agreeOn (added : lib.Adds addition larger) {type : TypeRef}
    (apart : type.innermost ≠ addition.name) : larger.AgreeOn lib type := by
  refine kindOfName_of_declares_iff fun kind => ?_
  rw [added.declares_iff]
  exact or_iff_right fun new => apart new.1

/-- The libraries before and after agree on all types that occur in the first. -/
theorem agreeOn_of_occurring (added : lib.Adds addition larger) (accepted : lib.Accepted)
    (fresh : lib.Fresh addition.name) {type : TypeRef} (occurs : type ∈ lib.occurring) :
    larger.AgreeOn lib type :=
  added.agreeOn (accepted.innermost_ne fresh occurs)

/-! ### Chains of structs -/

theorem mem_structs (added : lib.Adds addition larger) {struct : Record}
    (declared : struct ∈ larger.structs) (apart : struct.name ≠ addition.name) :
    struct ∈ lib.structs := by
  cases added with
  | structType inserts =>
    refine (inserts.mem_iff.mp declared).resolve_left ?_
    rintro rfl
    exact apart rfl
  | enumType | classType | external => exact declared

/-- A chain that starts at a struct declared before leads along such structs only. -/
theorem transGen_holds (added : lib.Adds addition larger) (accepted : lib.Accepted)
    (fresh : lib.Fresh addition.name) {start finish : String} (apart : start ≠ addition.name)
    (chain : TransGen larger.Holds start finish) :
    TransGen lib.Holds start finish ∧ finish ≠ addition.name := by
  -- One step from a struct declared before: its field has a type that occurs, hence another name.
  have step : ∀ {holder held : String}, holder ≠ addition.name → larger.Holds holder held →
      lib.Holds holder held ∧ held ≠ addition.name := by
    rintro holder held apart ⟨⟨struct, declared, rfl, field, isField, type⟩, other, isStruct, rfl⟩
    have before : struct ∈ lib.structs := added.mem_structs declared apart
    have occurs : field.type ∈ lib.occurring := mem_occurring_of_record
      (List.mem_append_left _ before) (Record.type_mem_types isField)
    have heldApart : other.name ≠ addition.name := by
      have inside := accepted.innermost_ne fresh occurs
      rwa [type] at inside
    exact ⟨⟨⟨struct, before, rfl, field, isField, type⟩, other,
      added.mem_structs isStruct heldApart, rfl⟩, heldApart⟩
  induction chain with
  | single holds =>
    obtain ⟨before, heldApart⟩ := step apart holds
    exact ⟨.single before, heldApart⟩
  | tail _ holds ih =>
    obtain ⟨chain, middleApart⟩ := ih
    obtain ⟨before, heldApart⟩ := step middleApart holds
    exact ⟨chain.tail before, heldApart⟩

end Adds

/-! ### Places of defects -/

theorem place_of_mem_defectIf {place : Place} {condition : Bool} {problem : Problem}
    {defect : Defect} (found : defect ∈ place.defectIf condition problem) :
    defect.place = place := by
  rw [Place.defectIf] at found
  split at found
  · rw [List.mem_singleton.mp found]
  · cases found

theorem place_of_mem_referenceDefects {place : Place} {type : TypeRef} {defect : Defect}
    (found : defect ∈ lib.referenceDefects place type) : defect.place = place := by
  induction type with
  | named name => exact place_of_mem_defectIf found
  | array element count ih =>
    rcases List.mem_append.mp found with ofVoid | inside
    · exact place_of_mem_defectIf ofVoid
    · exact ih inside

/-- A defect of a field is found at the field. -/
theorem place_of_mem_fieldDefects {sort : RecordSort} {record : Record} {field : Field}
    {defect : Defect} (found : defect ∈ lib.fieldDefects sort record field) :
    defect.place = .field field.name sort record.name := by
  simp only [fieldDefects, List.mem_append] at found
  rcases found with (ofType | ofCount) | ofHolding
  · exact place_of_mem_referenceDefects ofType
  · rw [countDefects] at ofCount
    split at ofCount
    · cases ofCount
    · split at ofCount
      · rw [List.mem_singleton.mp ofCount]
      · exact place_of_mem_defectIf ofCount
  · exact place_of_mem_defectIf ofHolding

/-- What the check finds in a new declaration is found there. -/
theorem owns_of_mem_additionDefects {defect : Defect}
    (found : defect ∈ lib.additionDefects addition) : addition.Owns defect.place := by
  cases addition with
  | enumType enum =>
    rw [place_of_mem_defectIf found]
    rfl
  | structType record | classType record =>
    obtain ⟨field, isField, ofField⟩ := List.mem_flatMap.mp found
    rw [place_of_mem_fieldDefects ofField]
    exact ⟨rfl, List.mem_map_of_mem isField⟩
  | external name => cases found

/-! ### Defects before and after -/

theorem Accepted.functionDefects_eq (accepted : lib.Accepted) {f : Function}
    (declared : f ∈ lib.functions) : lib.functionDefects f = [] := by
  simp only [Accepted, defects, List.append_eq_nil_iff, List.flatMap_eq_nil_iff] at accepted
  exact accepted.1.2 f declared

theorem Accepted.eventDefects_eq (accepted : lib.Accepted) {event : Event}
    (declared : event ∈ lib.events) : lib.eventDefects event = [] := by
  simp only [Accepted, defects, List.append_eq_nil_iff, List.flatMap_eq_nil_iff] at accepted
  exact accepted.2 event declared

namespace Adds

variable (added : lib.Adds addition larger) (accepted : lib.Accepted)
  (fresh : lib.Fresh addition.name)

include added accepted fresh

theorem nodup_typeNames : larger.typeNames.Nodup := by
  rw [added.typeNames.perm.nodup_iff, List.nodup_cons]
  exact ⟨fresh.undeclared, accepted.sound.typeNames_nodup⟩

theorem resolves {type : TypeRef} (occurs : type ∈ lib.occurring) (resolves : lib.Resolves type) :
    larger.Resolves type :=
  ⟨ne_of_eq_of_ne (added.agreeOn_of_occurring accepted fresh occurs) resolves.1, resolves.2⟩

/-- A struct declared before has no defect after. -/
theorem recordDefects_struct {struct : Record} (declared : struct ∈ lib.structs) :
    larger.recordDefects .structSort struct = [] := by
  have sound := accepted.sound
  have isRecord : struct ∈ lib.structs ++ lib.classes := List.mem_append_left _ declared
  have isStruct : struct ∈ larger.structs := by
    cases added with
    | structType inserts => exact inserts.mem_iff.mpr (.inr declared)
    | enumType | classType | external => exact declared
  have apart : struct.name ≠ addition.name := fun same =>
    fresh.undeclared (same ▸ mem_typeNames_of_record isRecord)
  have acyclic : ¬ TransGen larger.Holds struct.name struct.name := fun cycle =>
    sound.holds_acyclic struct.name (added.transGen_holds accepted fresh apart cycle).1
  have held := (containsByValue_fields_iff (added.nodup_typeNames accepted fresh) isStruct).mpr
    acyclic
  refine List.flatMap_eq_nil_iff.mpr fun field isField => ?_
  refine fieldDefects_struct_eq_nil_iff.mpr ⟨?_, sound.count_bound struct isRecord field isField,
    held field isField⟩
  exact added.resolves accepted fresh
    (mem_occurring_of_record isRecord (Record.type_mem_types isField))
    (sound.field_resolves struct isRecord field isField)

/-- A class declared before has no defect after. -/
theorem recordDefects_class {record : Record} (declared : record ∈ lib.classes) :
    larger.recordDefects .classSort record = [] := by
  have sound := accepted.sound
  have isRecord : record ∈ lib.structs ++ lib.classes := List.mem_append_right _ declared
  refine List.flatMap_eq_nil_iff.mpr fun field isField => ?_
  refine fieldDefects_class_eq_nil_iff.mpr ⟨?_, sound.count_bound record isRecord field isField⟩
  exact added.resolves accepted fresh
    (mem_occurring_of_record isRecord (Record.type_mem_types isField))
    (sound.field_resolves record isRecord field isField)

theorem agreeOn_of_signature {f : Function} (declared : f ∈ lib.signatures) :
    ∀ type ∈ f.types, larger.AgreeOn lib type := fun _ inside =>
  added.agreeOn_of_occurring accepted fresh (mem_occurring_of_signature declared inside)

/-- The defects of the larger library are those of the new declaration. -/
theorem defects_eq : larger.defects = larger.additionDefects addition := by
  have sound := accepted.sound
  have names : larger.nameDefects = [] := by
    refine nameDefects_eq_nil_iff.mpr ⟨added.nodup_typeNames accepted fresh, ?_⟩
    rw [entryPointNames, added.functions_eq, added.events_eq]
    exact sound.entryPointNames_nodup
  have functions : larger.functions.flatMap larger.functionDefects = [] := by
    rw [added.functions_eq, List.flatMap_eq_nil_iff]
    intro f declared
    rw [functionDefects_of_agree (added.agreeOn_of_signature accepted fresh
      (List.mem_append_left _ declared))]
    exact accepted.functionDefects_eq declared
  have events : larger.events.flatMap larger.eventDefects = [] := by
    rw [added.events_eq, List.flatMap_eq_nil_iff]
    intro event declared
    rw [eventDefects_of_agree (added.agreeOn_of_signature accepted fresh
      (List.mem_append_right _ (List.mem_map_of_mem declared)))]
    exact accepted.eventDefects_eq declared
  have enums : ∀ enum ∈ lib.enums, enumDefects enum = [] := fun enum declared =>
    enumDefects_eq_nil_iff.mpr (sound.enum_integer enum declared)
  have structs : ∀ record ∈ lib.structs, larger.recordDefects .structSort record = [] :=
    fun _ declared => added.recordDefects_struct accepted fresh declared
  have classes : ∀ record ∈ lib.classes, larger.recordDefects .classSort record = [] :=
    fun _ declared => added.recordDefects_class accepted fresh declared
  rw [defects, names, functions, events]
  cases added with
  | enumType inserts =>
    rw [inserts.flatMap_eq enums, List.flatMap_eq_nil_iff.mpr structs,
      List.flatMap_eq_nil_iff.mpr classes]
    simp [additionDefects]
  | structType inserts =>
    rw [List.flatMap_eq_nil_iff.mpr enums, inserts.flatMap_eq structs,
      List.flatMap_eq_nil_iff.mpr classes]
    simp [additionDefects]
  | classType inserts =>
    rw [List.flatMap_eq_nil_iff.mpr enums, List.flatMap_eq_nil_iff.mpr structs,
      inserts.flatMap_eq classes]
    simp [additionDefects]
  | external inserts =>
    rw [List.flatMap_eq_nil_iff.mpr enums, List.flatMap_eq_nil_iff.mpr structs,
      List.flatMap_eq_nil_iff.mpr classes]
    simp [additionDefects]

/-- The larger library is accepted exactly if the new declaration is sound in it. -/
theorem accepted_iff : larger.Accepted ↔ larger.SoundAlone addition := by
  have distinct := added.nodup_typeNames accepted fresh
  rw [Accepted, added.defects_eq accepted fresh]
  cases added with
  | enumType inserts => exact enumDefects_eq_nil_iff
  | @structType record structs inserts =>
    have isStruct : record ∈ structs := inserts.mem_iff.mpr (.inl rfl)
    rw [SoundAlone, additionDefects, recordDefects, List.flatMap_eq_nil_iff,
      ← containsByValue_fields_iff distinct isStruct, ← forall₂_and]
    simp only [fieldDefects_struct_eq_nil_iff, and_assoc]
  | classType inserts =>
    rw [SoundAlone, additionDefects, recordDefects, List.flatMap_eq_nil_iff]
    simp only [fieldDefects_class_eq_nil_iff]
  | external inserts => exact iff_of_true rfl trivial

end Adds

end Library

end InteropGlue
