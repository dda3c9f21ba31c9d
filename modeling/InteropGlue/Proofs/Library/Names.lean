import Mathlib.Data.List.Nodup
import Mathlib.Data.List.Permutation
import InteropGlue.Library.Kind
/-!
# Declared names

Where no name is declared twice, looking a declared name up gives its own declaration.

## Main Results

* `find?_of_nodup_keys` — a search by key in a list with distinct keys finds the entry of the key.
* `Library.struct?_of_mem`, `Library.class?_of_mem` — a declared record is found by its name.
* `Library.kindOfName_record` — a declared record means what it declares, unless its name is built
  in.
* `Library.kindOfName_of_integer` — the types of counts are primitives.
* `Library.record_eq_of_name` — a name is that of one record only.
-/

namespace InteropGlue

/-- A search by key in a list with distinct keys finds the entry of the key. -/
theorem find?_of_nodup_keys {α : Type} {key : α → String} {entries : List α} {entry : α}
    (distinct : (entries.map key).Nodup) (member : entry ∈ entries) :
    entries.find? (key · == key entry) = some entry := by
  obtain ⟨found, search⟩ : ∃ found, entries.find? (key · == key entry) = some found := by
    rw [← Option.isSome_iff_exists, List.find?_isSome]
    exact ⟨entry, member, by simp⟩
  have sameKey : key found = key entry := by simpa using List.find?_some search
  rw [search, List.inj_on_of_nodup_map distinct (List.mem_of_find?_eq_some search) member sameKey]

theorem TypeRef.name?_eq_some_iff {type : TypeRef} {name : String} :
    type.name? = some name ↔ type = .named name := by
  cases type <;> simp [TypeRef.name?]

namespace Library

variable {lib : Library}

theorem nodup_struct_names (distinct : lib.typeNames.Nodup) :
    (lib.structs.map (·.name)).Nodup := by
  simp only [typeNames, List.nodup_append] at distinct
  exact distinct.1.1.2.1

theorem nodup_class_names (distinct : lib.typeNames.Nodup) :
    (lib.classes.map (·.name)).Nodup := by
  simp only [typeNames, List.nodup_append] at distinct
  exact distinct.1.2.1

/-- A declared struct is found by its name. -/
theorem struct?_of_mem (distinct : lib.typeNames.Nodup) {record : Record}
    (member : record ∈ lib.structs) : lib.struct? record.name = some record :=
  find?_of_nodup_keys (nodup_struct_names distinct) member

/-- A declared class is found by its name. -/
theorem class?_of_mem (distinct : lib.typeNames.Nodup) {record : Record}
    (member : record ∈ lib.classes) : lib.class? record.name = some record :=
  find?_of_nodup_keys (nodup_class_names distinct) member

theorem mem_of_struct?_eq_some {name : String} {record : Record}
    (found : lib.struct? name = some record) : record ∈ lib.structs ∧ record.name = name :=
  ⟨List.mem_of_find?_eq_some found, by simpa using List.find?_some found⟩

theorem mem_of_class?_eq_some {name : String} {record : Record}
    (found : lib.class? name = some record) : record ∈ lib.classes ∧ record.name = name :=
  ⟨List.mem_of_find?_eq_some found, by simpa using List.find?_some found⟩

/-- A struct and a class do not share a name. -/
theorem struct?_eq_none_of_class (distinct : lib.typeNames.Nodup) {record : Record}
    (member : record ∈ lib.classes) : lib.struct? record.name = none := by
  simp only [typeNames, List.nodup_append] at distinct
  rw [struct?, List.find?_eq_none]
  intro struct isStruct same
  refine distinct.1.2.2 struct.name ?_ record.name (List.mem_map_of_mem member) (by simpa using same)
  exact List.mem_append_right _ (List.mem_map_of_mem isStruct)

/-- The records are the structs and the classes. -/
theorem mem_records_iff {record : Record} : record ∈ lib.structs ++ lib.classes ↔
    ∃ isClass : Bool, record ∈ if isClass then lib.classes else lib.structs := by
  rw [List.mem_append, Bool.exists_bool]
  rfl

/-- No record is named like a primitive or the handle. -/
def PlainRecords (lib : Library) : Prop :=
  ∀ record ∈ lib.structs ++ lib.classes,
    canonicalPrimitive? record.name = none ∧ record.name ≠ handleType

theorem PlainRecords.of_declared (plain : lib.PlainRecords) {isClass : Bool} {record : Record}
    (declared : record ∈ if isClass then lib.classes else lib.structs) :
    canonicalPrimitive? record.name = none ∧ record.name ≠ handleType :=
  plain record (mem_records_iff.mpr ⟨isClass, declared⟩)

/-- A declared record means what it declares, unless its name is built in. -/
theorem kindOfName_record (distinct : lib.typeNames.Nodup) (plain : lib.PlainRecords)
    {isClass : Bool} {record : Record}
    (declared : record ∈ if isClass then lib.classes else lib.structs) :
    lib.kindOfName record.name = if isClass then .classType else .structType := by
  obtain ⟨notPrimitive, notHandle⟩ := plain.of_declared declared
  have notVoid : record.name ≠ "void" := by
    intro same
    rw [same] at notPrimitive
    exact absurd notPrimitive (by decide)
  have notBool : record.name ≠ "bool" := by
    intro same
    rw [same] at notPrimitive
    exact absurd notPrimitive (by decide)
  cases isClass with
  | false =>
    have found := struct?_of_mem distinct declared
    simp [kindOfName, notVoid, notBool, notHandle, notPrimitive, found]
  | true =>
    have notStruct := struct?_eq_none_of_class distinct declared
    have found := class?_of_mem distinct declared
    simp [kindOfName, notVoid, notBool, notHandle, notPrimitive, notStruct, found]

/-- Integers are primitives. -/
theorem kindOfName_of_integer {name : String} (integer : name ∈ integerPrimitives) :
    lib.kindOfName name = .primitive := by
  have builtIn : ∀ name ∈ integerPrimitives, name ≠ "void" ∧ name ≠ "bool" ∧ name ≠ handleType ∧
      (canonicalPrimitive? name).isSome = true := by decide
  obtain ⟨notVoid, notBool, notHandle, canonical⟩ := builtIn name integer
  rw [kindOfName, if_neg notVoid, if_neg notBool, if_neg notHandle, if_pos canonical]

/-- A name is that of one record only. -/
theorem record_eq_of_name (distinct : lib.typeNames.Nodup) {isClass other : Bool}
    {record found : Record} (declared : record ∈ if isClass then lib.classes else lib.structs)
    (alsoDeclared : found ∈ if other then lib.classes else lib.structs)
    (same : record.name = found.name) : isClass = other ∧ record = found := by
  cases isClass with
  | false =>
    have isStruct := struct?_of_mem distinct declared
    cases other with
    | false =>
      rw [same, struct?_of_mem distinct alsoDeclared] at isStruct
      exact ⟨rfl, (Option.some.inj isStruct).symm⟩
    | true =>
      rw [same, struct?_eq_none_of_class distinct alsoDeclared] at isStruct
      exact absurd isStruct (by simp)
  | true =>
    have isClass := class?_of_mem distinct declared
    cases other with
    | false =>
      have notStruct := struct?_eq_none_of_class distinct declared
      rw [same, struct?_of_mem distinct alsoDeclared] at notStruct
      exact absurd notStruct (by simp)
    | true =>
      rw [same, class?_of_mem distinct alsoDeclared] at isClass
      exact ⟨rfl, (Option.some.inj isClass).symm⟩

end Library

end InteropGlue
