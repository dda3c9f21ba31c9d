import InteropGlue.Library.Check
import InteropGlue.Proofs.Library.Containment
/-!
# What an accepted library is

`Library.defects` joins what seven passes report. `Library.Sound` says, clause by clause and without
the passes, which libraries can be generated: names are declared once, references have a meaning,
counts are integers, structs have a layout, and every signature has the key and the shapes that its
conversions need. The two agree on every library.

## Main Definitions

* `Library.Sound` — the clauses.
* `Library.Resolves` — a reference that means something at every level.
* `Library.Converted` — a reference whose values may hold handles.

## Main Results

* `Library.accepted_iff_sound` — a library has no defects exactly when it is sound.

## Design Notes

Each pass has one lemma that says when it reports nothing. The lemmas are independent of each other,
as the passes are; the theorem joins them in the order of the report.
-/

namespace InteropGlue

open Relation

/-! ### Single tests -/

/-- The type is one of the integer primitives. -/
def TypeRef.IsInteger (type : TypeRef) : Prop := ∃ name ∈ integerPrimitives, type = .named name

namespace TypeRef

theorem isVoid_iff {type : TypeRef} : type.isVoid = true ↔ type = .named "void" := by
  simp [isVoid, name?_eq_some_iff]

theorem containsBool_iff {type : TypeRef} : type.containsBool = true ↔ type.innermost = "bool" := by
  induction type with
  | named name => simp [containsBool, innermost]
  | array element count ih => simpa [containsBool, innermost] using ih

theorem isNamedAmong_iff {type : TypeRef} :
    type.isNamedAmong isIntegerPrimitive = true ↔ type.IsInteger := by
  cases type with
  | named name => simp [isNamedAmong, name?, isIntegerPrimitive, IsInteger]
  | array element count => simp [isNamedAmong, name?, IsInteger]

end TypeRef

theorem repeatedAfter_eq_nil_iff {seen names : List String} :
    repeatedAfter seen names = [] ↔ names.Nodup ∧ ∀ name ∈ names, name ∉ seen := by
  induction names generalizing seen with
  | nil => simp [repeatedAfter]
  | cons name rest ih =>
    rw [repeatedAfter]
    split
    · rename_i before
      simp only [List.contains_iff_mem] at before
      simp [before]
    · rename_i before
      simp only [List.contains_iff_mem] at before
      rw [ih]
      simp only [List.nodup_cons, List.mem_cons, forall_eq_or_imp, not_or]
      constructor
      · rintro ⟨distinct, apart⟩
        refine ⟨⟨fun again => (apart name again).1 rfl, distinct⟩, before, ?_⟩
        exact fun other member => (apart other member).2
      · rintro ⟨⟨once, distinct⟩, -, apart⟩
        refine ⟨distinct, fun other member => ⟨?_, apart other member⟩⟩
        rintro rfl
        exact once member

/-- No name is repeated exactly when the names are distinct. -/
theorem repeated_eq_nil_iff {names : List String} : repeated names = [] ↔ names.Nodup := by
  simp [repeated, repeatedAfter_eq_nil_iff]

theorem Place.defectIf_eq_nil_iff {place : Place} {condition : Bool} {problem : Problem} :
    place.defectIf condition problem = [] ↔ condition = false := by
  cases condition <;> simp [Place.defectIf]

namespace Library

variable (lib : Library)

/-! ### The clauses -/

/-- All signatures: of the functions, and of the handlers of events. -/
def signatures : List Function := lib.functions ++ lib.events.map (·.handler)

/-- The innermost name means something, and is not `void` under an array. -/
def Resolves (type : TypeRef) : Prop :=
  lib.kindOfName type.innermost ≠ .unknown ∧ (0 < type.depth → type.innermost ≠ "void")

/-- Values of the type may hold handles: the innermost name is the handle, a struct or a class. -/
def Converted (type : TypeRef) : Prop :=
  lib.kindOfName type.innermost = .handle ∨ lib.kindOfName type.innermost = .structType ∨
    lib.kindOfName type.innermost = .classType

/-- The bound count of an array names a field of the record, the first of its name an integer. -/
def CountBound (record : Record) (field : Field) : Prop :=
  ∀ element count, field.type = .array element (some count) →
    ∃ sibling, record.field? count = some sibling ∧ sibling.type.IsInteger

/-- A signature that converts something has an `int` as the first parameter of the key's name. -/
def Keyed (f : Function) : Prop :=
  (lib.Converted f.returnType ∨ ∃ p ∈ f.params, lib.Converted p.type) →
    ∃ p, f.machineParam? = some p ∧ p.type = .named "int"

/-- An array that crosses a function as it is: it holds neither handles nor booleans. -/
def PlainArray (type : TypeRef) : Prop := ¬ lib.Converted type ∧ type.innermost ≠ "bool"

/-- A parameter that a function can convert. -/
def Convertible (p : Param) : Prop :=
  (p.type = .named "bool" → p.direction = .input) ∧
    (lib.kindOf p.type = .handle ∨ lib.kindOf p.type = .structType → p.direction ≠ .buffer) ∧
      (lib.kindOf p.type = .array → lib.PlainArray p.type)

/-- A parameter that a callback can forward. -/
def Forwardable (p : Param) : Prop :=
  p.direction = .input ∧ lib.kindOf p.type ≠ .structType ∧ lib.kindOf p.type ≠ .classType ∧
    lib.kindOf p.type ≠ .array

/-- A library for which source can be generated. -/
structure Sound : Prop where
  /-- No type or alias is declared twice. -/
  typeNames_nodup : lib.typeNames.Nodup
  /-- No entry point is declared twice, registrations of events included. -/
  entryPointNames_nodup : lib.entryPointNames.Nodup
  enum_integer : ∀ enum ∈ lib.enums, enum.underlying.IsInteger
  field_resolves : ∀ record ∈ lib.structs ++ lib.classes, ∀ field ∈ record.fields,
    lib.Resolves field.type
  return_resolves : ∀ f ∈ lib.signatures, lib.Resolves f.returnType
  param_resolves : ∀ f ∈ lib.signatures, ∀ p ∈ f.params, lib.Resolves p.type
  count_bound : ∀ record ∈ lib.structs ++ lib.classes, ∀ field ∈ record.fields,
    CountBound record field
  /-- No struct holds itself in place, in one or more steps. -/
  holds_acyclic : ∀ name, ¬ TransGen lib.Holds name name
  param_not_void : ∀ f ∈ lib.signatures, ∀ p ∈ f.params, p.type ≠ .named "void"
  keyed : ∀ f ∈ lib.signatures, lib.Keyed f
  return_plain : ∀ f ∈ lib.functions, lib.kindOf f.returnType = .array → lib.PlainArray f.returnType
  param_convertible : ∀ f ∈ lib.functions, ∀ p ∈ f.params, lib.Convertible p
  param_forwardable : ∀ event ∈ lib.events, ∀ p ∈ event.handler.params, lib.Forwardable p

variable {lib}

/-! ### Kinds -/

theorem kindOf_eq_bool_iff {type : TypeRef} : lib.kindOf type = .bool ↔ type = .named "bool" := by
  cases type with
  | named name => simp only [kindOf, kindOfName]; grind
  | array element count => simp [kindOf]

theorem kindOf_eq_void_iff {type : TypeRef} : lib.kindOf type = .void ↔ type = .named "void" := by
  cases type with
  | named name => simp only [kindOf, kindOfName]; grind
  | array element count => simp [kindOf]

theorem needsConversion_iff {type : TypeRef} :
    lib.needsConversion type = true ↔ lib.Converted type := by
  induction type with
  | named name => simp only [needsConversion, Converted, TypeRef.innermost]; split <;> simp_all
  | array element count ih => simpa [needsConversion, Converted, TypeRef.innermost] using ih

theorem converts_iff {f : Function} :
    lib.converts f = true ↔ lib.Converted f.returnType ∨ ∃ p ∈ f.params, lib.Converted p.type := by
  simp [converts, needsConversion_iff]

/-! ### When a pass reports nothing -/

theorem nameDefects_eq_nil_iff :
    lib.nameDefects = [] ↔ lib.typeNames.Nodup ∧ lib.entryPointNames.Nodup := by
  simp [nameDefects, repeated_eq_nil_iff]

theorem enumDefects_eq_nil_iff {enum : Enum} :
    enumDefects enum = [] ↔ enum.underlying.IsInteger := by
  rw [enumDefects, Place.defectIf_eq_nil_iff, Bool.not_eq_false', TypeRef.isNamedAmong_iff]

theorem referenceDefects_eq_nil_iff {place : Place} {type : TypeRef} :
    lib.referenceDefects place type = [] ↔ lib.Resolves type := by
  induction type with
  | named name =>
    simp [referenceDefects, Place.defectIf_eq_nil_iff, Resolves, TypeRef.innermost, TypeRef.depth]
  | array element count ih =>
    rw [referenceDefects, List.append_eq_nil_iff, Place.defectIf_eq_nil_iff, ih,
      ← Bool.not_eq_true, TypeRef.isVoid_iff]
    cases element with
    | named name =>
      simp only [Resolves, TypeRef.innermost, TypeRef.depth, TypeRef.named.injEq]
      constructor
      · rintro ⟨notVoid, known, -⟩
        exact ⟨known, fun _ => notVoid⟩
      · rintro ⟨known, notVoid⟩
        exact ⟨notVoid (by omega), known, by simp⟩
    | array inner innerCount => simp [Resolves, TypeRef.innermost, TypeRef.depth]

theorem countDefects_eq_nil_iff {place : Place} {record : Record} {field : Field} :
    countDefects place record field = [] ↔ CountBound record field := by
  rcases field with ⟨name, type, marshal⟩
  cases type with
  | named typeName => simp [countDefects, Field.countField?, CountBound]
  | array element bound =>
    cases bound with
    | none => simp [countDefects, Field.countField?, CountBound]
    | some count =>
      simp only [countDefects, Field.countField?, CountBound, TypeRef.array.injEq,
        Option.some.injEq]
      cases found : record.field? count with
      | none => simp [found]
      | some sibling =>
        simp only [Place.defectIf_eq_nil_iff, Bool.not_eq_false', TypeRef.isNamedAmong_iff]
        constructor
        · rintro integer _ _ ⟨rfl, rfl⟩
          exact ⟨sibling, found, integer⟩
        · intro bound
          obtain ⟨other, again, integer⟩ := bound _ _ ⟨rfl, rfl⟩
          obtain rfl : sibling = other := by simpa [found] using again
          exact integer

theorem fieldDefects_struct_eq_nil_iff {record : Record} {field : Field} :
    lib.fieldDefects .structSort record field = [] ↔
      lib.Resolves field.type ∧ CountBound record field ∧
        lib.containsByValue field.type record.name = false := by
  simp [fieldDefects, referenceDefects_eq_nil_iff, countDefects_eq_nil_iff,
    Place.defectIf_eq_nil_iff]

theorem fieldDefects_class_eq_nil_iff {record : Record} {field : Field} :
    lib.fieldDefects .classSort record field = [] ↔
      lib.Resolves field.type ∧ CountBound record field := by
  have notStruct : (RecordSort.classSort == .structSort) = false := rfl
  simp [fieldDefects, referenceDefects_eq_nil_iff, countDefects_eq_nil_iff, Place.defectIf,
    notStruct]

theorem machineDefects_eq_nil_iff {owner : Callable} {f : Function} :
    lib.machineDefects owner f = [] ↔ lib.Keyed f := by
  rw [machineDefects, Keyed, ← converts_iff]
  cases lib.converts f with
  | false => simp
  | true =>
    cases found : f.machineParam? with
    | none => simp
    | some p =>
      have isInt : (p.type.name? != some "int") = false ↔ p.type = .named "int" := by
        simp [bne_eq_false_iff_eq, TypeRef.name?_eq_some_iff]
      simp [Place.defectIf_eq_nil_iff, isInt]

theorem signatureDefects_eq_nil_iff {owner : Callable} {f : Function} :
    lib.signatureDefects owner f = [] ↔
      lib.Resolves f.returnType ∧ (∀ p ∈ f.params, lib.Resolves p.type ∧ p.type ≠ .named "void") ∧
        lib.Keyed f := by
  simp only [signatureDefects, List.append_eq_nil_iff, List.flatMap_eq_nil_iff,
    referenceDefects_eq_nil_iff, machineDefects_eq_nil_iff, Place.defectIf_eq_nil_iff,
    ← Bool.not_eq_true, TypeRef.isVoid_iff, and_assoc]

/-- An array is plain exactly when neither test for a special element finds one. -/
theorem plainArray_iff {type : TypeRef} :
    lib.PlainArray type ↔ lib.needsConversion type = false ∧ type.containsBool = false := by
  rw [PlainArray, ← needsConversion_iff, ← Bool.not_eq_true, ← Bool.not_eq_true (type.containsBool),
    TypeRef.containsBool_iff]

theorem unsupportedReturn?_eq_none_iff {type : TypeRef} :
    lib.unsupportedReturn? type = none ↔ (lib.kindOf type = .array → lib.PlainArray type) := by
  rw [unsupportedReturn?, plainArray_iff]
  cases lib.kindOf type <;> simp
  cases lib.needsConversion type <;> cases type.containsBool <;> simp

theorem isWritten_eq_false_iff {p : Param} : p.isWritten = false ↔ p.direction = .input := by
  simp [Param.isWritten, bne_eq_false_iff_eq]

theorem unsupportedParam?_eq_none_iff {p : Param} :
    lib.unsupportedParam? p = none ↔ lib.Convertible p := by
  rw [unsupportedParam?, Convertible, plainArray_iff, ← @kindOf_eq_bool_iff lib,
    ← isWritten_eq_false_iff]
  cases lib.kindOf p.type <;> simp
  cases lib.needsConversion p.type <;> cases p.type.containsBool <;> simp

theorem unsupportedCallbackParam?_eq_none_iff {p : Param} :
    lib.unsupportedCallbackParam? p = none ↔ lib.Forwardable p := by
  rw [unsupportedCallbackParam?, Forwardable, ← isWritten_eq_false_iff]
  cases p.isWritten <;> cases lib.kindOf p.type <;> simp

theorem functionDefects_eq_nil_iff {f : Function} :
    lib.functionDefects f = [] ↔
      (lib.Resolves f.returnType ∧ (∀ p ∈ f.params, lib.Resolves p.type ∧ p.type ≠ .named "void") ∧
        lib.Keyed f) ∧
        (lib.kindOf f.returnType = .array → lib.PlainArray f.returnType) ∧
          ∀ p ∈ f.params, lib.Convertible p := by
  simp only [functionDefects, List.append_eq_nil_iff, List.flatMap_eq_nil_iff, List.map_eq_nil_iff,
    Option.toList_eq_nil_iff, signatureDefects_eq_nil_iff, unsupportedReturn?_eq_none_iff,
    unsupportedParam?_eq_none_iff, and_assoc]

theorem eventDefects_eq_nil_iff {event : Event} :
    lib.eventDefects event = [] ↔
      (lib.Resolves event.handler.returnType ∧
        (∀ p ∈ event.handler.params, lib.Resolves p.type ∧ p.type ≠ .named "void") ∧
        lib.Keyed event.handler) ∧ ∀ p ∈ event.handler.params, lib.Forwardable p := by
  simp only [eventDefects, List.append_eq_nil_iff, List.flatMap_eq_nil_iff, List.map_eq_nil_iff,
    Option.toList_eq_nil_iff, signatureDefects_eq_nil_iff, unsupportedCallbackParam?_eq_none_iff]

/-! ### All passes together -/

theorem forall_signatures {property : Function → Prop} :
    (∀ f ∈ lib.signatures, property f) ↔
      (∀ f ∈ lib.functions, property f) ∧ ∀ event ∈ lib.events, property event.handler := by
  simp only [signatures, List.forall_mem_append, List.forall_mem_map]

theorem Accepted.sound (accepted : lib.Accepted) : lib.Sound := by
  simp only [Accepted, defects, List.append_eq_nil_iff, List.flatMap_eq_nil_iff,
    nameDefects_eq_nil_iff, enumDefects_eq_nil_iff, recordDefects, fieldDefects_struct_eq_nil_iff,
    fieldDefects_class_eq_nil_iff, functionDefects_eq_nil_iff, eventDefects_eq_nil_iff] at accepted
  obtain ⟨⟨⟨⟨⟨⟨types, entries⟩, enums⟩, structs⟩, classes⟩, functions⟩, events⟩ := accepted
  have records : ∀ record ∈ lib.structs ++ lib.classes, ∀ field ∈ record.fields,
      lib.Resolves field.type ∧ CountBound record field := by
    rw [List.forall_mem_append]
    refine ⟨fun record member field isField => ?_, classes⟩
    have sound := structs record member field isField
    exact ⟨sound.1, sound.2.1⟩
  have signatures : ∀ f ∈ lib.signatures, lib.Resolves f.returnType ∧
      (∀ p ∈ f.params, lib.Resolves p.type ∧ p.type ≠ .named "void") ∧ lib.Keyed f :=
    forall_signatures.mpr ⟨fun f member => (functions f member).1,
      fun event member => (events event member).1⟩
  exact
    { typeNames_nodup := types
      entryPointNames_nodup := entries
      enum_integer := enums
      field_resolves := fun record member field isField => (records record member field isField).1
      return_resolves := fun f member => (signatures f member).1
      param_resolves := fun f member p isParam => ((signatures f member).2.1 p isParam).1
      count_bound := fun record member field isField => (records record member field isField).2
      holds_acyclic := (containsByValue_eq_false_iff types).mp
        fun struct member field isField => (structs struct member field isField).2.2
      param_not_void := fun f member p isParam => ((signatures f member).2.1 p isParam).2
      keyed := fun f member => (signatures f member).2.2
      return_plain := fun f member => (functions f member).2.1
      param_convertible := fun f member => (functions f member).2.2
      param_forwardable := fun event member => (events event member).2 }

theorem Sound.accepted (sound : lib.Sound) : lib.Accepted := by
  simp only [Accepted, defects, List.append_eq_nil_iff, List.flatMap_eq_nil_iff,
    nameDefects_eq_nil_iff, enumDefects_eq_nil_iff, recordDefects, fieldDefects_struct_eq_nil_iff,
    fieldDefects_class_eq_nil_iff, functionDefects_eq_nil_iff, eventDefects_eq_nil_iff]
  have signatures : ∀ f ∈ lib.signatures, lib.Resolves f.returnType ∧
      (∀ p ∈ f.params, lib.Resolves p.type ∧ p.type ≠ .named "void") ∧ lib.Keyed f := by
    intro f member
    refine ⟨sound.return_resolves f member, fun p isParam => ?_, sound.keyed f member⟩
    exact ⟨sound.param_resolves f member p isParam, sound.param_not_void f member p isParam⟩
  obtain ⟨ofFunctions, ofEvents⟩ := forall_signatures.mp signatures
  refine ⟨⟨⟨⟨⟨⟨sound.typeNames_nodup, sound.entryPointNames_nodup⟩, sound.enum_integer⟩, ?_⟩, ?_⟩,
    ?_⟩, ?_⟩
  · intro struct member field isField
    have isRecord : struct ∈ lib.structs ++ lib.classes := List.mem_append_left _ member
    refine ⟨sound.field_resolves struct isRecord field isField,
      sound.count_bound struct isRecord field isField, ?_⟩
    exact (containsByValue_eq_false_iff sound.typeNames_nodup).mpr sound.holds_acyclic
      struct member field isField
  · intro cls member field isField
    have isRecord : cls ∈ lib.structs ++ lib.classes := List.mem_append_right _ member
    exact ⟨sound.field_resolves cls isRecord field isField,
      sound.count_bound cls isRecord field isField⟩
  · intro f member
    exact ⟨ofFunctions f member, sound.return_plain f member, sound.param_convertible f member⟩
  · intro event member
    exact ⟨ofEvents event member, sound.param_forwardable event member⟩

/-- A library has no defects exactly when it is sound. -/
theorem accepted_iff_sound : lib.Accepted ↔ lib.Sound := ⟨Accepted.sound, Sound.accepted⟩

end Library

end InteropGlue
