import InteropGlue.Proofs.CSharp.Typing
import InteropGlue.Proofs.Glue.Members
import InteropGlue.Proofs.Library.Spelling
/-!
# The conversions of a class of functions

Every class that implements functions has the four routines of each record and the conversions of
handles and booleans. What a body converts, it converts by one of these.

## Main Definitions

* `Library.routines` — all conversions for a target.
* `Library.Crossing` — a type whose values are converted as a whole.

## Main Results

* `Library.routines_subset` — the conversions are members of the class.
* `Library.exists_record` — a name of a struct or class is the name of a declared record.
* `Library.exists_valueRoutine`, `Library.copyRoutine_mem_conversions` — whatever is converted has a
  conversion of the right types.
-/

namespace InteropGlue

open CSharp

namespace Conversion

@[simp] theorem sourceMode_wrap (target : Target) : wrap.sourceMode target = .native target := rfl

@[simp] theorem destMode_wrap (target : Target) : wrap.destMode target = .application target := rfl

@[simp] theorem sourceMode_unwrap (target : Target) :
    unwrap.sourceMode target = .application target := rfl

@[simp] theorem destMode_unwrap (target : Target) : unwrap.destMode target = .native target := rfl

/-- A conversion starts from one of the two surfaces of the target. -/
theorem exists_sourceMode (conversion : Conversion) (target : Target) :
    ∃ isNative, conversion.sourceMode target = ⟨isNative, target⟩ := by
  cases conversion <;> exact ⟨_, rfl⟩

/-- A conversion ends at one of the two surfaces of the target. -/
theorem exists_destMode (conversion : Conversion) (target : Target) :
    ∃ isNative, conversion.destMode target = ⟨isNative, target⟩ := by
  cases conversion <;> exact ⟨_, rfl⟩

end Conversion

namespace Library

variable (lib : Library) (target : Target)

/-- All conversions of the class of functions. -/
def routines : List Member :=
  lib.structs.flatMap (lib.conversionRoutines target false) ++
    lib.classes.flatMap (lib.conversionRoutines target true) ++ scalarConversions target true

variable {lib target}

/-- The conversions are members of the class of functions. -/
theorem routines_subset (names : ClassNames) :
    lib.routines target ⊆ (lib.nativeFunctionsClass names target).members := by
  intro routine member
  rw [members_nativeFunctionsClass]
  simp only [routines, List.mem_append] at member ⊢
  tauto

/-- The function is a member of the class of functions. -/
theorem implementation_mem (names : ClassNames) {f : Function} (member : f ∈ lib.functions) :
    lib.implementation target f ∈ (lib.nativeFunctionsClass names target).members := by
  have listed := List.mem_map_of_mem (f := lib.implementation target) member
  rw [members_nativeFunctionsClass]
  simp only [List.mem_append]
  tauto

/-- A struct is found among the structs, a class among the classes. -/
theorem exists_record {name : String} (isClass : Bool)
    (kind : lib.kindOfName name = if isClass then .classType else .structType) :
    ∃ record ∈ if isClass then lib.classes else lib.structs, record.name = name := by
  simp only [kindOfName] at kind
  cases isClass with
  | false =>
    have found : (lib.struct? name).isSome := by grind
    obtain ⟨record, found⟩ := Option.isSome_iff_exists.mp found
    exact ⟨record, mem_of_struct?_eq_some found⟩
  | true =>
    have found : (lib.class? name).isSome := by grind
    obtain ⟨record, found⟩ := Option.isSome_iff_exists.mp found
    exact ⟨record, mem_of_class?_eq_some found⟩

/-- A record is declared on every surface. -/
theorem recordDecl_mem (mode : Mode) {record : Record} {isClass : Bool}
    (declared : record ∈ if isClass then lib.classes else lib.structs) :
    lib.recordDecl mode isClass record ∈ lib.recordDecls mode := by
  rw [recordDecls, List.mem_append, List.mem_map, List.mem_map]
  cases isClass with
  | false => exact .inl ⟨record, declared, rfl⟩
  | true => exact .inr ⟨record, declared, rfl⟩

theorem routine_mem {record : Record} {isClass : Bool} {routine : Member}
    (declared : record ∈ if isClass then lib.classes else lib.structs)
    (member : routine ∈ lib.conversionRoutines target isClass record) :
    routine ∈ lib.routines target := by
  simp only [routines, List.mem_append, List.mem_flatMap]
  cases isClass with
  | false => exact .inl (.inl ⟨record, declared, member⟩)
  | true => exact .inl (.inr ⟨record, declared, member⟩)

theorem signature_mem_conversions (routine : Member) {signature : Signature}
    (member : routine ∈ lib.routines target) (declares : routine.signature? = some signature) :
    signature ∈ (lib.routines target).filterMap Member.signature? :=
  List.mem_filterMap.mpr ⟨routine, member, declares⟩

/-- A type whose values are converted as a whole: the handle, a struct or a class. -/
def Crossing (lib : Library) (type : TypeRef) : Prop :=
  lib.kindOf type = .handle ∨ lib.kindOf type = .structType ∨ lib.kindOf type = .classType

theorem Crossing.exists_named {type : TypeRef} (crossing : lib.Crossing type) :
    ∃ name, type = .named name := by
  cases type with
  | named name => exact ⟨name, rfl⟩
  | array element count => simp [Crossing, kindOf] at crossing

theorem Crossing.converted {type : TypeRef} (crossing : lib.Crossing type) :
    lib.Converted type := by
  obtain ⟨name, rfl⟩ := crossing.exists_named
  exact crossing

/-- For each type that is converted as a whole there is a routine that gives the converted value. -/
theorem exists_valueRoutine (conversion : Conversion) {type : TypeRef}
    (crossing : lib.Crossing type) :
    ∃ name, ⟨lib.typeName (conversion.destMode target) type, conversion.valueRoutine,
      [machineParameter,
        plainParameter .byValue (lib.typeName (conversion.sourceMode target) type) name]⟩ ∈
          (lib.routines target).filterMap Member.signature? := by
  obtain ⟨name, rfl⟩ := crossing.exists_named
  have ofRecord : ∀ isClass : Bool,
      (lib.kindOfName name = if isClass then .classType else .structType) →
      ⟨lib.typeName (conversion.destMode target) (.named name), conversion.valueRoutine,
        [machineParameter, plainParameter .byValue
          (lib.typeName (conversion.sourceMode target) (.named name)) "info"]⟩ ∈
            (lib.routines target).filterMap Member.signature? := by
    intro isClass kind
    obtain ⟨record, declared, rfl⟩ := exists_record isClass kind
    refine signature_mem_conversions
      (lib.allocatingRoutine target conversion isClass record)
      (routine_mem declared ?_) rfl
    cases conversion <;> simp [conversionRoutines]
  rcases crossing with handle | struct | cls
  · have spelling := typeName_native_handle target handle
    obtain rfl := kindOfName_eq_handle_iff.mp handle
    cases conversion with
    | wrap =>
      refine ⟨"handle", signature_mem_conversions (wrapHandleRoutine target) ?_ ?_⟩
      · simp [routines, scalarConversions]
      · rw [Conversion.sourceMode_wrap, spelling]
        rfl
    | unwrap =>
      refine ⟨"objectHandle",
        signature_mem_conversions (unwrapHandleRoutine target) ?_ ?_⟩
      · simp [routines, scalarConversions]
      · rw [Conversion.destMode_unwrap, spelling]
        rfl
  · exact ⟨"info", ofRecord false struct⟩
  · exact ⟨"info", ofRecord true cls⟩

/-- For each class there is a routine that fills an instance. -/
theorem copyRoutine_mem_conversions (conversion : Conversion) {type : TypeRef}
    (kind : lib.kindOf type = .classType) :
    ⟨"void", conversion.copyRoutine,
      [machineParameter,
        plainParameter .byValue (lib.typeName (conversion.sourceMode target) type) "infoSrc",
        plainParameter .byValue (lib.typeName (conversion.destMode target) type) "infoDest"]⟩ ∈
          (lib.routines target).filterMap Member.signature? := by
  obtain ⟨name, rfl⟩ := Crossing.exists_named (.inr (.inr kind))
  obtain ⟨record, declared, rfl⟩ := exists_record true kind
  refine signature_mem_conversions (lib.copyRoutine target conversion true record)
    (routine_mem declared ?_) rfl
  cases conversion <;> simp [conversionRoutines]

/-- The conversions are methods of the class of functions. -/
theorem conversions_subset_methods (names : ClassNames) :
    (lib.routines target).filterMap Member.signature? ⊆
      (lib.nativeFunctionsClass names target).methods := by
  intro signature member
  obtain ⟨routine, isRoutine, declares⟩ := List.mem_filterMap.mp member
  exact List.mem_filterMap.mpr ⟨routine, routines_subset names isRoutine, declares⟩

end Library

end InteropGlue
