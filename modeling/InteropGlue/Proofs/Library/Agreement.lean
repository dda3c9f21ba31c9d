import InteropGlue.Library.Check
import InteropGlue.Surface
import Mathlib.Data.List.Basic
/-!
# Libraries that agree on a type

All that the check and the surfaces want to know of a name is its kind. Two libraries that give the
innermost name of a type the same kind agree on the type: it has the same spellings, it is converted
by both or by neither, and both find the same defects in it.

## Main Definitions

* `TypeRef.levels` — a type with the types of its elements.
* `Function.types`, `Record.types` — the types in a signature, and in a struct or class.
* `Library.AgreeOn` — two libraries give the innermost name of a type the same kind.

## Main Results

* `Library.AgreeOn.kindOf_eq`, `Library.AgreeOn.needsConversion_eq`,
  `Library.AgreeOn.typeName_eq` — what is said of a single type.
* `Library.functionDefects_of_agree`, `Library.eventDefects_of_agree` — what the check finds in a
  signature on whose types the libraries agree.

## Design Notes

The libraries may declare different types, in different places. A statement here has the agreement
on the types that its definition looks at as its only hypothesis, so it can be used for any change
of a library that leaves these alone.
-/

namespace InteropGlue

/-- A type with the types of its elements, from the outside to the inside. -/
def TypeRef.levels : TypeRef → List TypeRef
  | .named name => [.named name]
  | .array element count => .array element count :: element.levels

/-- The types in a signature. -/
def Function.types (f : Function) : List TypeRef := f.returnType :: f.params.map (·.type)

/-- The types in a struct or class. -/
def Record.types (record : Record) : List TypeRef := record.fields.map (·.type)

theorem TypeRef.innermost_of_mem_levels {type level : TypeRef} (isLevel : level ∈ type.levels) :
    level.innermost = type.innermost := by
  induction type with
  | named name => rw [List.mem_singleton.mp isLevel]
  | array element count ih =>
    rcases List.mem_cons.mp isLevel with rfl | inside
    · rfl
    · exact ih inside

theorem Function.returnType_mem_types (f : Function) : f.returnType ∈ f.types :=
  List.mem_cons_self

theorem Function.type_mem_types {f : Function} {p : Param} (isParam : p ∈ f.params) :
    p.type ∈ f.types :=
  List.mem_cons_of_mem _ (List.mem_map_of_mem isParam)

theorem Record.type_mem_types {record : Record} {field : Field}
    (isField : field ∈ record.fields) :
    field.type ∈ record.types :=
  List.mem_map_of_mem isField

namespace Library

/-- Two libraries give the innermost name of a type the same kind. -/
def AgreeOn (lib other : Library) (type : TypeRef) : Prop :=
  lib.kindOfName type.innermost = other.kindOfName type.innermost

variable {lib other : Library} {type : TypeRef}

/-! ### Single types -/

/-- Libraries that agree on a type agree on the types of its elements. -/
theorem AgreeOn.of_level (agree : lib.AgreeOn other type) {level : TypeRef}
    (isLevel : level ∈ type.levels) : lib.AgreeOn other level := by
  rw [AgreeOn, TypeRef.innermost_of_mem_levels isLevel]
  exact agree

theorem AgreeOn.kindOf_eq (agree : lib.AgreeOn other type) :
    lib.kindOf type = other.kindOf type := by
  cases type with
  | named name => exact agree
  | array element count => rfl

theorem AgreeOn.needsConversion_eq (agree : lib.AgreeOn other type) :
    lib.needsConversion type = other.needsConversion type := by
  induction type with
  | named name =>
    rw [needsConversion, needsConversion,
      show lib.kindOfName name = other.kindOfName name from agree]
  | array element count ih => exact ih agree

theorem AgreeOn.typeName_eq (agree : lib.AgreeOn other type) (mode : Mode) :
    lib.typeName mode type = other.typeName mode type := by
  induction type with
  | named name =>
    unfold typeName
    rw [show lib.kindOfName name = other.kindOfName name from agree]
  | array element count ih =>
    show lib.typeName mode element ++ "[]" = other.typeName mode element ++ "[]"
    rw [ih agree]

theorem AgreeOn.referenceDefects_eq (agree : lib.AgreeOn other type) (place : Place) :
    lib.referenceDefects place type = other.referenceDefects place type := by
  induction type with
  | named name =>
    unfold referenceDefects
    rw [show lib.kindOfName name = other.kindOfName name from agree]
  | array element count ih =>
    unfold referenceDefects
    rw [ih agree]

/-! ### Signatures -/

section Signatures

variable {f : Function} (agree : ∀ type ∈ f.types, lib.AgreeOn other type)

include agree

theorem converts_of_agree : lib.converts f = other.converts f := by
  have params : (f.params.any fun p => lib.needsConversion p.type) =
      f.params.any fun p => other.needsConversion p.type := by
    rw [Bool.eq_iff_iff, List.any_eq_true, List.any_eq_true]
    refine exists_congr fun p => and_congr_right fun isParam => ?_
    rw [(agree _ (Function.type_mem_types isParam)).needsConversion_eq]
  unfold converts
  rw [(agree _ f.returnType_mem_types).needsConversion_eq, params]

theorem signatureDefects_of_agree (owner : Callable) :
    lib.signatureDefects owner f = other.signatureDefects owner f := by
  have machine : lib.machineDefects owner f = other.machineDefects owner f := by
    unfold machineDefects
    rw [converts_of_agree agree]
  have params : f.params.flatMap (fun p => lib.referenceDefects (.param p.name owner) p.type ++
      (Place.param p.name owner).defectIf p.type.isVoid .voidParam) =
      f.params.flatMap (fun p => other.referenceDefects (.param p.name owner) p.type ++
        (Place.param p.name owner).defectIf p.type.isVoid .voidParam) := by
    apply List.flatMap_congr
    intro p isParam
    rw [(agree _ (Function.type_mem_types isParam)).referenceDefects_eq]
  unfold signatureDefects
  rw [(agree _ f.returnType_mem_types).referenceDefects_eq, params, machine]

/-- The check finds the same defects in a function on whose types the libraries agree. -/
theorem functionDefects_of_agree : lib.functionDefects f = other.functionDefects f := by
  have returned : lib.unsupportedReturn? f.returnType = other.unsupportedReturn? f.returnType := by
    unfold unsupportedReturn?
    rw [(agree _ f.returnType_mem_types).kindOf_eq,
      (agree _ f.returnType_mem_types).needsConversion_eq]
  have param : ∀ p ∈ f.params, lib.unsupportedParam? p = other.unsupportedParam? p := by
    intro p isParam
    unfold unsupportedParam?
    rw [(agree _ (Function.type_mem_types isParam)).kindOf_eq,
      (agree _ (Function.type_mem_types isParam)).needsConversion_eq]
  unfold functionDefects
  rw [signatureDefects_of_agree agree, returned]
  congr 1
  apply List.flatMap_congr
  intro p isParam
  rw [param p isParam]

end Signatures

/-- The check finds the same defects in an event on whose types the libraries agree. -/
theorem eventDefects_of_agree {event : Event}
    (agree : ∀ type ∈ event.handler.types, lib.AgreeOn other type) :
    lib.eventDefects event = other.eventDefects event := by
  unfold eventDefects
  rw [signatureDefects_of_agree agree]
  congr 1
  apply List.flatMap_congr
  intro p isParam
  unfold unsupportedCallbackParam?
  rw [(agree _ (Function.type_mem_types isParam)).kindOf_eq]

end Library

end InteropGlue
