import Mathlib.Data.Fintype.Card
import Mathlib.Data.Set.Finite.List
import InteropGlue.Proofs.Glue.RecordCopies
/-!
# Records that can be made

A new record starts with a value in each of its fields: with new instances in the class fields of a
class, and with the defaults of the types in all others, which are new records for structs. So a
record is made from structs that it holds in place, and a class also from the classes in its fields.
Making it ends if neither comes back to its start.

## Main Definitions

* `Library.Nests`, `Library.AcyclicClasses` — classes whose instances start with instances inside.
* `Library.FreeNativeNames` — the native spelling of a record means nothing else.
* `Library.DeclaresOnce` — no type is declared twice, which comes to the same.

## Main Results

* `Library.filter_types_record` — a record is the only declaration of its spelling.
* `Library.makes_of_acyclic` — every record can be made on both surfaces.

## Design Notes

Structs come first: on the application surface, then on the native one, since the name of a native
integer can be that of an application struct. Then every type has a default, and classes are made
from the classes inside them.
-/

namespace InteropGlue

open CSharp Relation

variable {F : Framework}

/-- A relation that starts from finitely many things and never comes back to its start can only be
followed for finitely many steps. -/
theorem wellFounded_of_acyclic {α : Type} {r : α → α → Prop} (domain : List α)
    (starts : ∀ {holder held}, r holder held → holder ∈ domain)
    (acyclic : ∀ a, ¬ TransGen r a a) : WellFounded fun held holder => r holder held := by
  let chain : {a // a ∈ domain} → {a // a ∈ domain} → Prop := fun held holder =>
    TransGen r holder.1 held.1
  have : Finite {a // a ∈ domain} := domain.finite_toSet.to_subtype
  have : IsTrans _ chain := ⟨fun _ _ _ first second => second.trans first⟩
  have : Std.Irrefl chain := ⟨fun a cycle => acyclic a.1 cycle⟩
  -- The chains of steps form a transitive relation that no element has to itself.
  have ends : WellFounded chain := Finite.wellFounded_of_trans_of_irrefl chain
  have inside : ∀ a : {a // a ∈ domain}, Acc (fun held holder => r holder held) a.1 := by
    intro a
    induction a using ends.induction with
    | _ a ih =>
      refine .intro _ fun held step => ?_
      -- What is outside the domain starts nothing, so the steps end there.
      by_cases member : held ∈ domain
      · exact ih ⟨held, member⟩ (.single step)
      · exact .intro _ fun _ next => absurd (starts next) member
  refine ⟨fun a => .intro _ fun held step => ?_⟩
  exact (inside ⟨a, starts step⟩).inv step

/-- Entries whose keys are distinct are the only ones with their keys. -/
theorem filter_of_nodup_keys {α : Type} {key : α → String} {entries : List α} {entry : α}
    (distinct : (entries.map key).Nodup) (member : entry ∈ entries) :
    entries.filter (key · == key entry) = [entry] := by
  induction entries with
  | nil => simp at member
  | cons first rest ih =>
    rw [List.map_cons, List.nodup_cons] at distinct
    rcases List.mem_cons.mp member with rfl | later
    · rw [List.filter_cons_of_pos (by simp), List.filter_eq_nil_iff.mpr]
      intro other isOther same
      exact distinct.1 (beq_iff_eq.mp same ▸ List.mem_map_of_mem isOther)
    -- The first entry has another key and is dropped.
    · have apart : key first ≠ key entry := fun same =>
        distinct.1 (same ▸ List.mem_map_of_mem later)
      rw [List.filter_cons_of_neg (by simpa using apart)]
      exact ih distinct.2 later

namespace Library

/-! ### Libraries whose records can be made -/

section Conditions

variable (lib : Library)

/-- A new instance of the first class starts with one of the second in a field. -/
def Nests (outer inner : String) : Prop :=
  ∃ record ∈ lib.classes, record.name = outer ∧
    ∃ field ∈ record.fields, field.type = .named inner ∧ lib.kindOfName inner = .classType

/-- No class starts with an instance of itself inside, in one or more steps. -/
def AcyclicClasses : Prop := ∀ name, ¬ TransGen lib.Nests name name

/-- The native spelling of a record means nothing else. -/
def FreeNativeNames (target : Target) : Prop :=
  ∀ record ∈ lib.structs ++ lib.classes,
    lib.kindOfName (record.name ++ target.recordSuffix) = .unknown

/-- The source for a target declares no type twice: neither the types and aliases of the library nor
its native records. -/
def DeclaresOnce (target : Target) : Prop :=
  (lib.typeNames ++ (lib.recordDecls (.native target)).map (·.name)).Nodup

end Conditions

variable {lib : Library} {M : Machine F} {target : Target} {mode : Mode}

/-- Only classes start with instances inside. -/
theorem Nests.mem_classes {outer inner : String} (nests : lib.Nests outer inner) :
    outer ∈ lib.classes.map (·.name) := by
  obtain ⟨record, declared, rfl, -⟩ := nests
  exact List.mem_map_of_mem declared

/-- Steps to instances inside end if no class starts with an instance of itself inside. -/
theorem AcyclicClasses.wellFounded (acyclic : lib.AcyclicClasses) :
    WellFounded fun inner outer => lib.Nests outer inner :=
  wellFounded_of_acyclic (lib.classes.map (·.name)) Nests.mem_classes acyclic

/-! ### Declarations by their spelling -/

/-- The names with a meaning of their own, in all spellings. -/
def builtInNames : List String :=
  handleType :: frameworkTypes ++ primitives.flatMap fun entry => entry.1 :: entry.2

/-- A name that ends like the native spelling of a record is not built in. -/
theorem not_builtIn_suffixed (name : String) :
    name ++ target.recordSuffix ∉ builtInNames := by
  intro member
  have ends : target.recordSuffix.toList <:+ (name ++ target.recordSuffix).toList := by
    rw [String.toList_append]
    exact List.suffix_append _ _
  have apart : ∀ other ∈ builtInNames, ¬ target.recordSuffix.toList <:+ other.toList := by
    cases target <;> decide
  exact apart _ member ends

/-- A name that is neither built in nor declared means nothing. -/
theorem kindOfName_undeclared {name : String} (notBuiltIn : name ∉ builtInNames)
    (undeclared : name ∉ lib.typeNames) : lib.kindOfName name = .unknown := by
  have apart : ∀ other ∈ builtInNames, name ≠ other :=
    fun other member same => notBuiltIn (same ▸ member)
  have notPrimitive : canonicalPrimitive? name = none := by
    rw [canonicalPrimitive?, Option.map_eq_none_iff, List.find?_eq_none]
    intro entry member same
    rw [Bool.or_eq_true, beq_iff_eq, List.contains_iff_mem] at same
    have isSpelling : name ∈ entry.1 :: entry.2 := List.mem_cons.mpr (same.imp_left Eq.symm)
    exact notBuiltIn (List.mem_append_right _ (List.mem_flatMap.mpr ⟨entry, member, isSpelling⟩))
  simp only [typeNames, List.mem_append, List.mem_map, not_or, not_exists, not_and] at undeclared
  obtain ⟨⟨⟨notEnum, notStruct⟩, notClass⟩, notAlias⟩ := undeclared
  have noStruct : lib.struct? name = none := by
    rw [struct?, List.find?_eq_none]
    exact fun record member same => notStruct record member (by simpa using same)
  have noClass : lib.class? name = none := by
    rw [class?, List.find?_eq_none]
    exact fun record member same => notClass record member (by simpa using same)
  have noEnum : lib.enums.any (·.name == name) = false := by
    rw [List.any_eq_false]
    exact fun enum member same => notEnum enum member (by simpa using same)
  have notFramework : name ∉ frameworkTypes := fun member =>
    notBuiltIn (List.mem_append_left _ (List.mem_cons_of_mem _ member))
  have notVoid := apart "void" (by decide)
  have notBool := apart "bool" (by decide)
  have notHandle := apart handleType (by decide)
  simp [kindOfName, notVoid, notBool, notHandle, notPrimitive, noStruct, noClass, noEnum, notAlias,
    notFramework]

/-- Where no type is declared twice, the native spelling of a record means nothing else. -/
theorem DeclaresOnce.freeNativeNames (once : lib.DeclaresOnce target) (accepted : lib.Accepted)
    (plain : lib.PlainRecords) : lib.FreeNativeNames target := by
  intro record member
  obtain ⟨isClass, declared⟩ := mem_records_iff.mp member
  refine kindOfName_undeclared (not_builtIn_suffixed _) fun known => ?_
  have spelled : lib.typeName (.native target) (.named record.name) =
      record.name ++ target.recordSuffix :=
    typeName_record accepted plain (.native target) declared
  have native : record.name ++ target.recordSuffix ∈
      (lib.recordDecls (.native target)).map (·.name) := by
    rw [← spelled]
    exact List.mem_map_of_mem (recordDecl_mem (.native target) declared)
  exact (List.nodup_append.mp once).2.2 _ known _ native rfl

section Spelling

variable (accepted : lib.Accepted) (plain : lib.PlainRecords) (free : lib.FreeNativeNames target)
include accepted plain

include free

/-- The declarations of both surfaces have distinct names. -/
theorem nodup_recordDecls :
    ((lib.recordDecls (.application target) ++ lib.recordDecls (.native target)).map
      (·.name)).Nodup := by
  have records : ((lib.structs ++ lib.classes).map (·.name)).Nodup := by
    have distinct := accepted.sound.typeNames_nodup
    simp only [typeNames, List.nodup_append, List.mem_append, List.map_append] at distinct ⊢
    exact ⟨distinct.1.1.2.1, distinct.1.2.1, fun name isStruct other isClass =>
      distinct.1.2.2 name (.inr isStruct) other isClass⟩
  have spelled : ∀ mode : Mode, (lib.recordDecls mode).map (·.name) =
      (lib.structs ++ lib.classes).map fun record => lib.typeName mode (.named record.name) := by
    intro mode
    rw [recordDecls, List.map_append, List.map_map, List.map_map, List.map_append]
    rfl
  have native : ∀ record ∈ lib.structs ++ lib.classes,
      lib.typeName (.native target) (.named record.name) = record.name ++ target.recordSuffix := by
    intro record member
    obtain ⟨isClass, declared⟩ := mem_records_iff.mp member
    exact typeName_record accepted plain (.native target) declared
  have nativeNames : (lib.recordDecls (.native target)).map (·.name) =
      ((lib.structs ++ lib.classes).map (·.name)).map (· ++ target.recordSuffix) := by
    rw [spelled, List.map_map]
    exact List.map_congr_left native
  rw [List.map_append, List.nodup_append]
  refine ⟨by simpa [spelled] using records, ?_, ?_⟩
  · rw [nativeNames]
    exact records.map fun _ _ same => by simpa using same
  · intro name isApplication other isNative same
    rw [spelled] at isApplication
    rw [nativeNames] at isNative
    simp only [List.mem_map, List.map_map, typeName_application_named] at isApplication isNative
    obtain ⟨record, isRecord, rfl⟩ := isApplication
    obtain ⟨base, isBase, rfl⟩ := isNative
    have unknown : lib.kindOfName (base.name ++ target.recordSuffix) = .unknown := free base isBase
    obtain ⟨isClass, declared⟩ := mem_records_iff.mp isRecord
    rw [show base.name ++ target.recordSuffix = record.name from same.symm,
      kindOfName_record accepted.sound.typeNames_nodup plain declared] at unknown
    cases isClass <;> simp at unknown

/-- A record is the only declaration of its spelling. -/
theorem filter_types_record (types : DeclaresRecords lib target M) (isNative : Bool) {isClass : Bool}
    {record : Record} (declared : record ∈ if isClass then lib.classes else lib.structs) :
    M.types.filter (·.name == lib.typeName ⟨isNative, target⟩ (.named record.name)) =
      [lib.recordDecl ⟨isNative, target⟩ isClass record] := by
  have member := (List.mem_filter.mp (recordDecl_mem_filter types isNative declared)).1
  have distinct := nodup_recordDecls accepted plain free
  rw [← types] at distinct
  exact filter_of_nodup_keys distinct member

/-- A type that is spelled like a record is this record on the same surface, or a native integer
whose name is that of an application record. -/
theorem named_of_typeName_eq (unmarked : lib.UnmarkedNames) {isNative surface isClass : Bool}
    {record : Record} {type : TypeRef}
    (declared : record ∈ if isClass then lib.classes else lib.structs)
    (known : lib.kindOfName type.innermost ≠ .unknown)
    (same : lib.typeName ⟨isNative, target⟩ (.named record.name) =
      lib.typeName ⟨surface, target⟩ type) :
    (type = .named record.name ∧ isNative = surface) ∨ (isNative = false ∧ surface = true) := by
  have kind := kindOfName_record accepted.sound.typeNames_nodup plain declared
  have member : record ∈ lib.structs ++ lib.classes := mem_records_iff.mpr ⟨isClass, declared⟩
  have suffixed : lib.typeName (.native target) (.named record.name) =
      record.name ++ target.recordSuffix := typeName_record accepted plain (.native target) declared
  cases type with
  | array element count =>
    have known : lib.kindOfName record.name ≠ .unknown := by rw [kind]; cases isClass <;> simp
    have bare := unmarked.typeName ⟨isNative, target⟩ known
    rw [same, typeName_array] at bare
    simp at bare
  | named name =>
    cases isNative with
    | false =>
      cases surface with
      | false => exact .inl ⟨congrArg TypeRef.named same.symm, rfl⟩
      | true => exact .inr ⟨rfl, rfl⟩
    | true =>
      have unknown := free record member
      have notHandle := typeName_record_ne_handle accepted plain (.native target) declared
      rw [← suffixed, Mode.native, same] at unknown
      rw [Mode.native, same] at notHandle suffixed
      cases surface with
      | false => exact absurd unknown known
      | true =>
        have isRecord : name ++ target.recordSuffix = record.name ++ target.recordSuffix →
            TypeRef.named name = .named record.name := by simp
        have notBool : nativeBool ≠ record.name ++ target.recordSuffix := by
          intro same
          have endings := congrArg (fun text => text.toList.getLast?) same
          cases target <;> simp [Target.recordSuffix, nativeBool] at endings
        simp only [typeName] at unknown notHandle suffixed
        split at unknown <;> rename_i kinds
        · simp [kinds] at notHandle
        · rw [kinds] at suffixed
          exact absurd suffixed notBool
        · rw [kinds] at suffixed
          exact .inl ⟨isRecord suffixed, rfl⟩
        · rw [kinds] at suffixed
          exact .inl ⟨isRecord suffixed, rfl⟩
        · exact absurd unknown known

end Spelling

/-! ### Making structs -/

/-- A record can be made if all its fields start with something. -/
theorem exists_initialFields {isClass : Bool} {fields : List Field}
    (starts : ∀ field ∈ fields, ∃ start : Value F,
      (if isClass ∧ lib.kindOf field.type = .classType then
        M.construct? (lib.typeName mode field.type)
      else M.default? (lib.typeName mode field.type)) = some start) :
    ∃ content, M.initialFields? (fields.map (lib.fieldMember mode isClass)) = some content := by
  induction fields with
  | nil => exact ⟨_, by rw [List.map_nil, Machine.initialFields?]⟩
  | cons field rest ih =>
    obtain ⟨start, started⟩ := starts field List.mem_cons_self
    obtain ⟨tail, others⟩ := ih fun other member => starts other (List.mem_cons_of_mem _ member)
    rw [List.map_cons, fieldMember, initialValue?]
    split at started
    · rename_i isInstance
      rw [if_pos isInstance, Machine.initialFields?, started, others]
      exact ⟨_, rfl⟩
    · rename_i isDefault
      rw [if_neg isDefault, Machine.initialFields?, started, others]
      exact ⟨_, rfl⟩

section Making

variable (accepted : lib.Accepted) (plain : lib.PlainRecords) (unmarked : lib.UnmarkedNames)
  (free : lib.FreeNativeNames target) (types : DeclaresRecords lib target M)
include accepted plain free types

/-- A record can be made if all its fields start with something. -/
theorem exists_construct {isNative isClass : Bool} {record : Record}
    (declared : record ∈ if isClass then lib.classes else lib.structs)
    (starts : ∀ field ∈ record.fields, ∃ start : Value F,
      (if isClass ∧ lib.kindOf field.type = .classType then
        M.construct? (lib.typeName ⟨isNative, target⟩ field.type)
      else M.default? (lib.typeName ⟨isNative, target⟩ field.type)) = some start) :
    ∃ value, M.construct? (lib.typeName ⟨isNative, target⟩ (.named record.name)) = some value := by
  obtain ⟨content, initial⟩ := exists_initialFields starts
  rw [construct?_of_filter (filter_types_record accepted plain free types isNative declared), initial]
  exact ⟨_, rfl⟩

/-- A type has a default if every struct with its spelling can be made. -/
theorem exists_default_of_structs {type : String}
    (structs : ∀ isNative, ∀ record ∈ lib.structs,
      lib.typeName ⟨isNative, target⟩ (.named record.name) = type →
        ∃ value, M.construct? type = some value) :
    ∃ value, M.default? type = some value := by
  rw [Machine.default?]
  split
  · rename_i decl found
    have listed : decl ∈ M.types.filter (·.name == type) := by
      rw [found]
      exact List.mem_singleton_self _
    obtain ⟨member, named⟩ := List.mem_filter.mp listed
    obtain ⟨isNative, isClass, record, declared, rfl⟩ := exists_declaration types member
    cases isClass with
    | false => exact structs isNative record declared (beq_iff_eq.mp named)
    | true => exact ⟨_, rfl⟩
  · repeat' split
    all_goals exact ⟨_, rfl⟩
  -- Two declarations of one spelling would be two records of one name.
  · rename_i notSingle notEmpty
    obtain ⟨decl, listed⟩ := List.exists_mem_of_ne_nil _ notEmpty
    obtain ⟨member, named⟩ := List.mem_filter.mp listed
    obtain ⟨isNative, isClass, record, declared, rfl⟩ := exists_declaration types member
    have single := filter_types_record accepted plain free types isNative declared
    rw [show lib.typeName ⟨isNative, target⟩ (.named record.name) = type from beq_iff_eq.mp named]
      at single
    exact absurd single (notSingle _)

include unmarked

/-- A struct can be made on a surface, if on the native one those of the application can be: what it
holds in place are structs that it contains, and native integers. -/
theorem exists_struct {surface : Bool}
    (integers : surface = true → ∀ record ∈ lib.structs,
      ∃ value, M.construct? (lib.typeName ⟨false, target⟩ (.named record.name)) = some value) :
    ∀ record ∈ lib.structs,
      ∃ value, M.construct? (lib.typeName ⟨surface, target⟩ (.named record.name)) = some value := by
  have ends : WellFounded fun held holder => lib.Holds holder held := by
    refine wellFounded_of_acyclic (lib.structs.map (·.name)) ?_ accepted.sound.holds_acyclic
    rintro holder held ⟨⟨struct, declared, rfl, -⟩, -⟩
    exact List.mem_map_of_mem declared
  intro record declared
  generalize isName : record.name = name
  induction name using ends.induction generalizing record with
  | _ name ih =>
    subst isName
    refine @exists_construct F lib M target accepted plain free types surface false record declared ?_
    intro field member
    rw [if_neg (by simp)]
    have known := @known_of_field lib accepted false record declared field member
    refine exists_default_of_structs accepted plain free types fun isNative held isStruct same => ?_
    rcases @named_of_typeName_eq lib target accepted plain free unmarked isNative surface false held
      field.type isStruct known same with ⟨isNamed, rfl⟩ | ⟨rfl, native⟩
    · rw [← same]
      exact ih held.name
        ⟨⟨record, declared, rfl, field, member, isNamed⟩, held, isStruct, rfl⟩ held isStruct rfl
    · rw [← same]
      exact integers native held isStruct

/-- Every struct can be made on both surfaces. -/
theorem exists_structs (isNative : Bool) : ∀ record ∈ lib.structs, ∃ value,
    M.construct? (lib.typeName ⟨isNative, target⟩ (.named record.name)) = some value := by
  -- On the application surface the default of a type needs no struct of the other one.
  have application : ∀ record ∈ lib.structs,
      ∃ value, M.construct? (lib.typeName ⟨false, target⟩ (.named record.name)) = some value :=
    exists_struct accepted plain unmarked free types (by simp)
  exact exists_struct accepted plain unmarked free types fun _ => application

/-- A class can be made from which only finitely many steps lead to instances inside. -/
theorem exists_class_of_acc (isNative : Bool) {record : Record} (declared : record ∈ lib.classes)
    (ends : Acc (fun inner outer => lib.Nests outer inner) record.name) : ∃ value,
    M.construct? (lib.typeName ⟨isNative, target⟩ (.named record.name)) = some value := by
  have defaults : ∀ type, ∃ value, M.default? type = some value := fun type =>
    exists_default_of_structs accepted plain free types fun isNative record declared same =>
      same ▸ exists_structs accepted plain unmarked free types isNative record declared
  -- The classes inside come first, by the induction on what a class nests.
  generalize isName : record.name = name at ends
  induction ends generalizing record with
  | intro name _ ih =>
    subst isName
    suffices starts : ∀ field ∈ record.fields, _ from
      @exists_construct F lib M target accepted plain free types isNative true record declared starts
    intro field member
    split
    · rename_i isInstance
      obtain ⟨inner, isNamed⟩ := Crossing.exists_named (.inr (.inr isInstance.2))
      rw [isNamed] at isInstance ⊢
      obtain ⟨part, isPart, rfl, -⟩ := exists_class isInstance.2
      exact ih part.name ⟨record, declared, rfl, field, member, isNamed, isInstance.2⟩ isPart rfl
    · exact defaults _

/-- Every record can be made on both surfaces, if no class starts with an instance of itself inside and
the native spellings are new. -/
theorem makes_of_acyclic (acyclic : lib.AcyclicClasses) : lib.Makes target M := by
  intro isNative isClass record declared
  cases isClass with
  | false => exact exists_structs accepted plain unmarked free types isNative record declared
  | true =>
    exact exists_class_of_acc accepted plain unmarked free types isNative declared
      (acyclic.wellFounded.apply _)

end Making

end Library

end InteropGlue
