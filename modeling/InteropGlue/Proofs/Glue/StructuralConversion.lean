import InteropGlue.Glue.Conversions
import InteropGlue.Proofs.CSharp.Evaluation
import InteropGlue.Proofs.Library.Soundness
/-!
# The structural conversion of records

What converting a record between the two surfaces means, by recursion over values alone. Every field
is treated by itself: what it becomes depends on the same field of the source, on what the field was
before, and for an array on the field of the source that counts it.

## Main Definitions

* `Conversion.handle?`, `Conversion.bool?` — handles and booleans converted.
* `Library.ConvertsTo`, `Library.FillsTo` — the conversion of a place and of a record.

## Main Results

* `Library.convertsTo_struct_iff`, `Library.convertsTo_inPlace_iff`, … — the conversion by kinds.

## Design Notes

The conversion has no result where generated source throws: for a count that is negative or beyond
the source, and for an instance that cannot be made.
-/

namespace InteropGlue

open CSharp

variable {F : Framework}

/-! ### The structural conversion -/

namespace Conversion

/-- The object of a native handle, or the native handle of an object, which is zero for none. -/
def handle? (conversion : Conversion) (target : Target) (key : Int) (source : Value F) :
    Option (Value F) :=
  match conversion, source with
  | .wrap, .number _ handle => some (.object (F.handleObject key handle))
  | .unwrap, .null _ => some (.number target.handleName 0)
  | .unwrap, .object object => (Value.number "long" (F.nativeHandle object)).cast target.handleName
  | _, _ => none

/-- The truth value of a native boolean, or the native boolean of a truth value. -/
def bool? (conversion : Conversion) (source : Value F) : Option (Value F) :=
  match conversion, source with
  | .wrap, .number _ number => some (.truth (number != 0))
  | .unwrap, .truth truth => some (.number nativeBool (if truth then 1 else 0))
  | _, _ => none

end Conversion

namespace Library

section Specification

variable (lib : Library) (M : Machine F) (target : Target) (conversion : Conversion) (key : Int)

mutual

/-- What a place of a type that held `before` holds after the conversion of `source`. A class in
place is filled where it is; `bound` is the count of an array, if it has one of its own. -/
inductive ConvertsTo : Bool → TypeRef → Option (Value F) → Value F → Value F → Value F → Prop
  | handle {inPlace : Bool} {name : String} {bound : Option (Value F)} {source before after : Value F}
      (kind : lib.kindOfName name = .handle)
      (converted : conversion.handle? target key source = some after) :
      ConvertsTo inPlace (.named name) bound source before after
  | bool {inPlace : Bool} {name : String} {bound : Option (Value F)} {source before after : Value F}
      (kind : lib.kindOfName name = .bool) (converted : conversion.bool? source = some after) :
      ConvertsTo inPlace (.named name) bound source before after
  | struct {inPlace : Bool} {name : String} {bound : Option (Value F)} {record : Record}
      {source before start after : Value F}
      (kind : lib.kindOfName name = .structType) (found : lib.struct? name = some record)
      (constructed : M.construct? (lib.typeName (conversion.destMode target) (.named name)) =
        some start)
      (filled : FillsTo record source start after) :
      ConvertsTo inPlace (.named name) bound source before after
  /-- A class in place without a source stays as it was. -/
  | keptInstance {name : String} {bound : Option (Value F)} {source before : Value F}
      (kind : lib.kindOfName name = .classType) (none : source.isNull = true) :
      ConvertsTo true (.named name) bound source before before
  | filledInstance {name : String} {bound : Option (Value F)} {record : Record}
      {source before after : Value F}
      (kind : lib.kindOfName name = .classType) (found : lib.class? name = some record)
      (given : source.isNull = false) (present : before.isNull = false)
      (filled : FillsTo record source before after) :
      ConvertsTo true (.named name) bound source before after
  | madeInstance {name : String} {bound : Option (Value F)} {record : Record}
      {source before start after : Value F}
      (kind : lib.kindOfName name = .classType) (found : lib.class? name = some record)
      (given : source.isNull = false) (missing : before.isNull = true)
      (constructed : M.construct? (lib.typeName (conversion.destMode target) (.named name)) =
        some start)
      (filled : FillsTo record source start after) :
      ConvertsTo true (.named name) bound source before after
  /-- A class in an array is replaced, by none if there is no source. -/
  | noElement {name : String} {bound : Option (Value F)} {source before : Value F}
      (kind : lib.kindOfName name = .classType) (none : source.isNull = true) :
      ConvertsTo false (.named name) bound source before
        (.null (lib.typeName (conversion.destMode target) (.named name)))
  | newElement {name : String} {bound : Option (Value F)} {record : Record}
      {source before start after : Value F}
      (kind : lib.kindOfName name = .classType) (found : lib.class? name = some record)
      (given : source.isNull = false)
      (constructed : M.construct? (lib.typeName (conversion.destMode target) (.named name)) =
        some start)
      (filled : FillsTo record source start after) :
      ConvertsTo false (.named name) bound source before after
  | other {inPlace : Bool} {name : String} {bound : Option (Value F)} {source before : Value F}
      (notConverted : ¬ lib.Converted (.named name)) (notBool : lib.kindOfName name ≠ .bool) :
      ConvertsTo inPlace (.named name) bound source before source
  /-- An array without a source stays as it was. -/
  | keptArray {inPlace : Bool} {element : TypeRef} {count : Option String}
      {bound : Option (Value F)} {source before : Value F} (none : source.isNull = true) :
      ConvertsTo inPlace (.array element count) bound source before before
  /-- An array is replaced by a new one of as many elements as its count says, or else as its source
  has. -/
  | newArray {inPlace : Bool} {element : TypeRef} {count : Option String}
      {bound : Option (Value F)} {spelled sizeType : String} {identity : Identity}
      {sourceLength length : Nat} {sourceElement : Fin sourceLength → Value F}
      {start before : Value F} {content : Fin length → Value F}
      (counted : bound.getD (.number "int" sourceLength) = .number sizeType length)
      (inside : length ≤ sourceLength) (fits : length ≤ maxLength)
      (started : M.default? (lib.typeName (conversion.destMode target) element) = some start)
      (elements : ∀ position : Fin length, ConvertsTo false element none
        (sourceElement (Fin.castLE inside position)) start (content position)) :
      ConvertsTo inPlace (.array element count) bound
        (.array spelled identity sourceLength sourceElement) before
        (.array (lib.typeName (conversion.destMode target) element) .fresh length content)

/-- What a record that was `before` is after it is filled from `source`: every field of the record is
converted in place, and nothing else changes. -/
inductive FillsTo : Record → Value F → Value F → Value F → Prop
  | intro {record : Record} {sourceType type : String} {sourceIdentity identity : Identity}
      {source before after : String → Value F}
      (each : ∀ field ∈ record.fields, ConvertsTo true field.type (field.countField?.map source)
        (source field.name) (before field.name) (after field.name))
      (others : ∀ name, name ∉ record.fields.map (·.name) → after name = before name) :
      FillsTo record (.record sourceType sourceIdentity source) (.record type identity before)
        (.record type identity after)

end

end Specification

variable {lib : Library} {M : Machine F} {target : Target} {conversion : Conversion} {key : Int}
  {source before after : Value F}

/-! ### The conversion by kinds -/

section Kinds

variable {inPlace : Bool} {name : String} {bound : Option (Value F)}

theorem convertsTo_handle_iff (kind : lib.kindOfName name = .handle) :
    lib.ConvertsTo M target conversion key inPlace (.named name) bound source before after ↔
      conversion.handle? target key source = some after := by
  constructor
  · intro converts
    cases converts with
    | handle _ converted => exact converted
    | _ => simp_all [Converted, TypeRef.innermost]
  · exact .handle kind

theorem convertsTo_bool_iff (kind : lib.kindOfName name = .bool) :
    lib.ConvertsTo M target conversion key inPlace (.named name) bound source before after ↔
      conversion.bool? source = some after := by
  constructor
  · intro converts
    cases converts with
    | bool _ converted => exact converted
    | _ => simp_all
  · exact .bool kind

theorem convertsTo_struct_iff {record : Record} (kind : lib.kindOfName name = .structType)
    (found : lib.struct? name = some record) :
    lib.ConvertsTo M target conversion key inPlace (.named name) bound source before after ↔
      ∃ start, M.construct? (lib.typeName (conversion.destMode target) (.named name)) =
          some start ∧ lib.FillsTo M target conversion key record source start after := by
  constructor
  · intro converts
    cases converts with
    | struct _ alsoFound constructed filled =>
      obtain rfl := Option.some.inj (found.symm.trans alsoFound)
      exact ⟨_, constructed, filled⟩
    | _ => simp_all [Converted, TypeRef.innermost]
  · rintro ⟨start, constructed, filled⟩
    exact .struct kind found constructed filled

theorem convertsTo_inPlace_iff {record : Record} (kind : lib.kindOfName name = .classType)
    (found : lib.class? name = some record) :
    lib.ConvertsTo M target conversion key true (.named name) bound source before after ↔
      if source.isNull then after = before
      else ∃ start, (if before.isNull then
          M.construct? (lib.typeName (conversion.destMode target) (.named name)) = some start
        else start = before) ∧ lib.FillsTo M target conversion key record source start after := by
  constructor
  · intro converts
    cases converts with
    | keptInstance _ none => rw [if_pos none]
    | filledInstance _ alsoFound given present filled =>
      obtain rfl := Option.some.inj (found.symm.trans alsoFound)
      rw [if_neg (by simp [given])]
      exact ⟨before, by rw [if_neg (by simp [present])], filled⟩
    | madeInstance _ alsoFound given missing constructed filled =>
      obtain rfl := Option.some.inj (found.symm.trans alsoFound)
      rw [if_neg (by simp [given])]
      exact ⟨_, by rwa [if_pos missing], filled⟩
    | _ => simp_all [Converted, TypeRef.innermost]
  · intro converts
    split at converts
    · rename_i none
      exact converts ▸ .keptInstance kind none
    · rename_i given
      obtain ⟨start, started, filled⟩ := converts
      split at started
      · rename_i missing
        exact .madeInstance kind found (by simpa using given) missing started filled
      · rename_i present
        exact .filledInstance kind found (by simpa using given) (by simpa using present)
          (started ▸ filled)

theorem convertsTo_element_iff {record : Record} (kind : lib.kindOfName name = .classType)
    (found : lib.class? name = some record) :
    lib.ConvertsTo M target conversion key false (.named name) bound source before after ↔
      if source.isNull then
        after = .null (lib.typeName (conversion.destMode target) (.named name))
      else ∃ start, M.construct? (lib.typeName (conversion.destMode target) (.named name)) =
          some start ∧ lib.FillsTo M target conversion key record source start after := by
  constructor
  · intro converts
    cases converts with
    | noElement _ none => rw [if_pos none]
    | newElement _ alsoFound given constructed filled =>
      obtain rfl := Option.some.inj (found.symm.trans alsoFound)
      rw [if_neg (by simp [given])]
      exact ⟨_, constructed, filled⟩
    | _ => simp_all [Converted, TypeRef.innermost]
  · intro converts
    split at converts
    · rename_i none
      exact converts ▸ .noElement kind none
    · rename_i given
      obtain ⟨start, constructed, filled⟩ := converts
      exact .newElement kind found (by simpa using given) constructed filled

theorem convertsTo_other_iff (notConverted : ¬ lib.Converted (.named name))
    (notBool : lib.kindOfName name ≠ .bool) :
    lib.ConvertsTo M target conversion key inPlace (.named name) bound source before after ↔
      after = source := by
  constructor
  · intro converts
    cases converts with
    | other => rfl
    | _ => simp_all [Converted, TypeRef.innermost]
  · rintro rfl
    exact .other notConverted notBool

end Kinds

/-- An instance that is filled is the same instance, of the same type. -/
theorem exists_of_fillsTo {record : Record}
    (filled : lib.FillsTo M target conversion key record source before after) :
    ∃ type identity old new, before = .record type identity old ∧
      after = .record type identity new := by
  cases filled
  exact ⟨_, _, _, _, rfl, rfl⟩

/-- A shared instance that the callee fills is filled for the caller. -/
theorem afterCall_of_fillsTo {record : Record}
    (filled : lib.FillsTo M target conversion key record source before after)
    (shared : before.isShared = true) : before.afterCall after = after := by
  obtain ⟨_, _, _, _, rfl, rfl⟩ := exists_of_fillsTo filled
  exact if_pos shared

end Library

end InteropGlue
