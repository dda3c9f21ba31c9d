import InteropGlue.Proofs.Glue.Members
import InteropGlue.Proofs.Glue.Overloads
/-!
# Values of the types of a library

The values that a surface has for a type, and the instances that are made of its records.

## Main Definitions

* `Library.machine` — the types, methods and entry points around the functions of a library.
* `Library.Typed` — the values of a type on a surface.
* `Library.Fillable` — what a copy may find where it is to fill an instance.

## Main Results

* `Library.exists_content` — a new instance of a record is a record of its type.
* `Library.fillable_of_construct?` — a new instance can be filled.

## Design Notes

Whatever a copy replaces may hold any value, so `Fillable` asks for nothing but instances of the
right class in the fields of classes. Every typed record is fillable, and a new one is as well.
-/

namespace InteropGlue

open CSharp

namespace Library

variable {F : Framework}

/-- The types, methods and entry points around the functions of a library. -/
def machine (lib : Library) (names : ClassNames) (target : Target)
    (native : String → List (Option (Value F)) → Reply F) : Machine F :=
  { types := lib.recordDecls (.application target) ++ lib.recordDecls (.native target)
    routines := lib.routines target
    entryPoints := lib.entryPointDelegates names target
    native }

/-! ### Typed values -/

section Typed

variable (lib : Library) (mode : Mode)

/-- The values of a type on a surface. -/
inductive Typed : TypeRef → Value F → Prop
  | nativeHandle {name : String} {handle : Int} (kind : lib.kindOfName name = .handle)
      (native : mode.isNative = true) : Typed (.named name) (.number mode.target.handleName handle)
  | object {name : String} {object : F.Object} (kind : lib.kindOfName name = .handle)
      (application : mode.isNative = false) : Typed (.named name) (.object object)
  | noObject {name : String} (kind : lib.kindOfName name = .handle)
      (application : mode.isNative = false) : Typed (.named name) (.null handleType)
  | nativeBool {name : String} {number : Int} (kind : lib.kindOfName name = .bool)
      (native : mode.isNative = true) : Typed (.named name) (.number nativeBool number)
  | truth {name : String} {truth : Bool} (kind : lib.kindOfName name = .bool)
      (application : mode.isNative = false) : Typed (.named name) (.truth truth)
  | struct {name : String} {record : Record} {content : String → Value F}
      (kind : lib.kindOfName name = .structType) (found : lib.struct? name = some record)
      (fields : ∀ field ∈ record.fields, Typed field.type (content field.name)) :
      Typed (.named name) (.record (lib.typeName mode (.named name)) .inline content)
  | instance {name : String} {record : Record} {identity : Identity} {content : String → Value F}
      (kind : lib.kindOfName name = .classType) (found : lib.class? name = some record)
      (shared : identity ≠ .inline)
      (fields : ∀ field ∈ record.fields, Typed field.type (content field.name)) :
      Typed (.named name) (.record (lib.typeName mode (.named name)) identity content)
  | noInstance {name : String} (kind : lib.kindOfName name = .classType) :
      Typed (.named name) (.null (lib.typeName mode (.named name)))
  | other {name : String} {value : Value F} (notConverted : ¬ lib.Converted (.named name))
      (notBool : lib.kindOfName name ≠ .bool) (sameType : value.type = name) :
      Typed (.named name) value
  | array {element : TypeRef} {count : Option String} {identity : Identity} {length : Nat}
      {content : Fin length → Value F} (elements : ∀ i, Typed element (content i)) :
      Typed (.array element count) (.array (lib.typeName mode element) identity length content)
  | noArray {element : TypeRef} {count : Option String} :
      Typed (.array element count) (.null (lib.typeName mode (.array element count)))

/-- What a copy may find at a place of a type: where it fills an instance of a class, there is none
or one of this class, with such values in its fields. -/
inductive Fillable : TypeRef → Value F → Prop
  | replaced {type : TypeRef} {value : Value F} (kind : lib.kindOf type ≠ .classType) :
      Fillable type value
  | instance {name : String} {record : Record} {identity : Identity} {content : String → Value F}
      (kind : lib.kindOfName name = .classType) (found : lib.class? name = some record)
      (shared : identity ≠ .inline)
      (fields : ∀ field ∈ record.fields, Fillable field.type (content field.name)) :
      Fillable (.named name) (.record (lib.typeName mode (.named name)) identity content)
  | noInstance {name type : String} (kind : lib.kindOfName name = .classType) :
      Fillable (.named name) (.null type)

end Typed

/-- Whatever is typed can be filled. -/
theorem Typed.fillable {lib : Library} {mode : Mode} {type : TypeRef} {value : Value F}
    (typed : lib.Typed mode type value) : lib.Fillable mode type value := by
  induction typed with
  | «instance» kind found shared _ ih => exact .instance kind found shared ih
  | noInstance kind => exact .noInstance kind
  | other notConverted =>
    exact .replaced fun kind => notConverted (.inr (.inr kind))
  | array | noArray => exact .replaced (by simp [kindOf])
  | _ => exact .replaced (by simp_all [kindOf])

/-- A typed value knows its type. -/
theorem Typed.type_eq {lib : Library} {mode : Mode} {type : TypeRef} {value : Value F}
    (typed : lib.Typed mode type value) : value.type = lib.typeName mode type := by
  cases typed with
  | nativeHandle kind native => simp [Value.type, typeName, native, kind]
  | object kind application | noObject kind application =>
    simp [Value.type, typeName, application, kindOfName_eq_handle_iff.mp kind]
  | nativeBool kind native => simp [Value.type, typeName, native, kind]
  | truth kind application =>
    simp [Value.type, typeName, application, kindOfName_eq_bool_iff.mp kind]
  | struct | «instance» | noInstance => rfl
  | @other name _ notConverted notBool sameType =>
    have plain : lib.PlainArray (.named name) :=
      ⟨notConverted, fun same => notBool (kindOfName_eq_bool_iff.mpr same)⟩
    rw [sameType, typeName_eq_of_plain plain mode (.application mode.target)]
    rfl
  | array | noArray => rfl

/-- The fields of each record have distinct names. -/
def DistinctFields (lib : Library) : Prop :=
  ∀ record ∈ lib.structs ++ lib.classes, (record.fields.map (·.name)).Nodup

theorem DistinctFields.of_declared {lib : Library} (distinct : lib.DistinctFields) {isClass : Bool}
    {record : Record} (declared : record ∈ if isClass then lib.classes else lib.structs) :
    (record.fields.map (·.name)).Nodup :=
  distinct record (mem_records_iff.mpr ⟨isClass, declared⟩)

/-! ### New instances -/

section Instances

variable {lib : Library} {names : ClassNames} {target : Target} {mode : Mode} {M : Machine F}
  {isClass : Bool} {record : Record} {value : Value F}

/-- The declarations around the functions are those of both surfaces. -/
def DeclaresRecords (lib : Library) (target : Target) (M : Machine F) : Prop :=
  M.types = lib.recordDecls (.application target) ++ lib.recordDecls (.native target)

/-- A record is among the declarations of its spelling. -/
theorem recordDecl_mem_filter (types : DeclaresRecords lib target M) (isNative : Bool)
    (declared : record ∈ if isClass then lib.classes else lib.structs) :
    lib.recordDecl ⟨isNative, target⟩ isClass record ∈
      M.types.filter (·.name == lib.typeName ⟨isNative, target⟩ (.named record.name)) := by
  rw [List.mem_filter]
  refine ⟨?_, by simp [recordDecl]⟩
  have isDeclared := recordDecl_mem ⟨isNative, target⟩ declared
  rw [types, List.mem_append]
  cases isNative with
  | false => exact .inl isDeclared
  | true => exact .inr isDeclared

/-- A record that is the only declaration of its spelling is made from its fields. -/
theorem construct?_of_filter {type : String}
    (single : M.types.filter (·.name == type) = [lib.recordDecl mode isClass record]) :
    M.construct? type =
      (M.initialFields? (record.fields.map (lib.fieldMember mode isClass))).map
        (.record type (if isClass then .fresh else .inline)) := by
  rw [Machine.construct?, single]
  simp only [members_recordDecl]
  cases M.initialFields? (record.fields.map (lib.fieldMember mode isClass)) with
  | none => rfl
  | some content => cases isClass <;> rfl

/-- A new instance of a record is a record of its type. -/
theorem exists_content (types : DeclaresRecords lib target M) (isNative : Bool)
    (declared : record ∈ if isClass then lib.classes else lib.structs)
    (constructed : M.construct? (lib.typeName ⟨isNative, target⟩ (.named record.name)) =
      some value) :
    ∃ content, value = .record (lib.typeName ⟨isNative, target⟩ (.named record.name))
        (if isClass then .fresh else .inline) content ∧
      M.initialFields? (record.fields.map (lib.fieldMember ⟨isNative, target⟩ isClass)) =
        some content := by
  have listed := recordDecl_mem_filter types isNative declared
  obtain ⟨decl, single⟩ : ∃ decl, M.types.filter
      (·.name == lib.typeName ⟨isNative, target⟩ (.named record.name)) = [decl] := by
    rw [Machine.construct?] at constructed
    split at constructed
    · exact ⟨_, by assumption⟩
    · simp at constructed
  rw [single] at listed
  obtain rfl := List.mem_singleton.mp listed
  rw [construct?_of_filter single, Option.map_eq_some_iff] at constructed
  obtain ⟨content, initial, rfl⟩ := constructed
  exact ⟨content, rfl, initial⟩

/-- What a new instance has in a field: a new instance in the field of a class, if its own record is
a class, and the default of the type of the field in any other. -/
theorem initial_of_field {fields : List Field} {content : String → Value F}
    (distinct : (fields.map (·.name)).Nodup)
    (initial : M.initialFields? (fields.map (lib.fieldMember mode isClass)) = some content) :
    ∀ field ∈ fields,
      (if isClass ∧ lib.kindOf field.type = .classType then
        M.construct? (lib.typeName mode field.type)
      else M.default? (lib.typeName mode field.type)) = some (content field.name) := by
  induction fields generalizing content with
  | nil => simp
  | cons first rest ih =>
    rw [List.map_cons, List.nodup_cons] at distinct
    -- The fields after the first one start as they do in a record without it.
    have step : ∀ {start : Value F} {tail : String → Value F},
        M.initialFields? (rest.map (lib.fieldMember mode isClass)) = some tail →
        content = Function.update tail first.name start →
        (if isClass ∧ lib.kindOf first.type = .classType then
          M.construct? (lib.typeName mode first.type)
        else M.default? (lib.typeName mode first.type)) = some start →
        ∀ field ∈ first :: rest,
          (if isClass ∧ lib.kindOf field.type = .classType then
            M.construct? (lib.typeName mode field.type)
          else M.default? (lib.typeName mode field.type)) = some (content field.name) := by
      intro start tail others same started field member
      subst same
      rcases List.mem_cons.mp member with rfl | later
      · rw [started, Function.update_self]
      · have apart : field.name ≠ first.name := fun same =>
          distinct.1 (same ▸ List.mem_map_of_mem later)
        rw [ih distinct.2 others field later, Function.update_of_ne apart]
    rw [List.map_cons, fieldMember, initialValue?] at initial
    split at initial
    · rename_i isInstance
      rw [Machine.initialFields?] at initial
      simp only [Option.bind_eq_bind, Option.bind_eq_some_iff, Option.some.injEq] at initial
      obtain ⟨start, constructed, tail, others, same⟩ := initial
      exact step others same.symm (by rw [if_pos isInstance, constructed])
    · rename_i isDefault
      rw [Machine.initialFields?] at initial
      simp only [Option.bind_eq_bind, Option.bind_eq_some_iff, Option.some.injEq] at initial
      obtain ⟨start, started, tail, others, same⟩ := initial
      exact step others same.symm (by rw [if_neg isDefault, started])

/-- A field of a class in a struct starts without an instance. -/
theorem isNull_of_default? (types : DeclaresRecords lib target M) (isNative : Bool)
    (declared : record ∈ lib.classes)
    (started : M.default? (lib.typeName ⟨isNative, target⟩ (.named record.name)) = some value) :
    value = .null (lib.typeName ⟨isNative, target⟩ (.named record.name)) := by
  have listed := @recordDecl_mem_filter F lib target M true record types isNative declared
  rw [Machine.default?] at started
  split at started
  · rename_i decl found
    rw [found] at listed
    obtain rfl := List.mem_singleton.mp listed
    simpa [recordDecl, eq_comm] using started
  · rename_i found
    rw [found] at listed
    simp at listed
  · simp at started

/-- A class is declared by the class of its name. -/
theorem exists_class {name : String} (kind : lib.kindOfName name = .classType) :
    ∃ record ∈ lib.classes, record.name = name ∧ lib.class? name = some record := by
  have found : (lib.class? name).isSome := by
    simp only [kindOfName] at kind
    grind
  obtain ⟨record, found⟩ := Option.isSome_iff_exists.mp found
  obtain ⟨declared, named⟩ := mem_of_class?_eq_some found
  exact ⟨record, declared, named, found⟩

/-- What a new instance has in its fields can be filled. -/
theorem fillable_of_construct? (types : DeclaresRecords lib target M) (isNative : Bool)
    (distinct : lib.DistinctFields) {spelled : String} {identity : Identity}
    {content : String → Value F}
    (declared : record ∈ if isClass then lib.classes else lib.structs)
    (constructed : M.construct? (lib.typeName ⟨isNative, target⟩ (.named record.name)) =
      some (.record spelled identity content)) :
    ∀ field ∈ record.fields, lib.Fillable ⟨isNative, target⟩ field.type (content field.name) := by
  obtain ⟨value, isValue⟩ : ∃ value : Value F, value = .record spelled identity content := ⟨_, rfl⟩
  rw [← isValue] at constructed
  induction value generalizing spelled identity content isClass record with
  | record spelled' identity' content' ih =>
    obtain ⟨rfl, rfl, rfl⟩ := Value.record.inj isValue
    obtain ⟨_, same, initial⟩ := exists_content types isNative declared constructed
    obtain ⟨-, -, rfl⟩ := Value.record.inj same
    intro field member
    by_cases kind : lib.kindOf field.type = .classType
    · have started := initial_of_field (distinct.of_declared declared) initial field member
      obtain ⟨name, isNamed⟩ := Crossing.exists_named (.inr (.inr kind))
      rw [isNamed] at kind started ⊢
      obtain ⟨part, isPart, rfl, found⟩ := exists_class kind
      cases isClass with
      | false =>
        rw [if_neg (by simp)] at started
        rw [isNull_of_default? types isNative isPart started]
        exact .noInstance kind
      | true =>
        rw [if_pos ⟨rfl, kind⟩] at started
        obtain ⟨inner, isRecord, -⟩ :=
          @exists_content F lib target M true part _ types isNative isPart started
        rw [isRecord]
        exact .instance kind found (by simp)
          (@ih field.name true part _ _ inner isPart started isRecord)
    · exact .replaced kind
  | _ => simp at isValue

end Instances

end Library

end InteropGlue
