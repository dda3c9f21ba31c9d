import InteropGlue.Proofs.CSharp.Methods
import InteropGlue.Proofs.Glue.Routines
/-!
# Overloads of the conversions

The routines of all records and of the handles share their names, so a call is told apart by the
types of its arguments. In an accepted library without confusing names there is one routine for each
call.

## Main Definitions

* `Library.Called` — a routine with a call that it takes.

## Main Results

* `Library.called_of_routine?` — a call finds a routine that takes it.
* `Library.routine?_of_called` — the routine that takes a call is the one that it finds.
-/

namespace InteropGlue

open CSharp

namespace Library

variable {F : Framework} {lib : Library} {target : Target} {M : Machine F} {name : String}
  {given : Given F} {routine other : Member}

/-- A routine with a call that it takes: the name, and arguments of the right types. -/
inductive Called (lib : Library) (target : Target) : Member → String → Given F → Prop
  | copy {conversion : Conversion} {isClass : Bool} {record : Record} {key source before : Value F}
      (declared : record ∈ if isClass then lib.classes else lib.structs)
      (keyed : key.type = "int")
      (sourced : source.type = lib.typeName (conversion.sourceMode target) (.named record.name))
      (filled : before.type = lib.typeName (conversion.destMode target) (.named record.name)) :
      Called lib target (lib.copyRoutine target conversion isClass record) conversion.copyRoutine
        [(.byValue, some key), (.byValue, some source),
          (if isClass then .byValue else .ref, some before)]
  | allocate {conversion : Conversion} {isClass : Bool} {record : Record} {key source : Value F}
      (declared : record ∈ if isClass then lib.classes else lib.structs)
      (keyed : key.type = "int")
      (sourced : source.type = lib.typeName (conversion.sourceMode target) (.named record.name)) :
      Called lib target (lib.allocatingRoutine target conversion isClass record)
        conversion.valueRoutine [(.byValue, some key), (.byValue, some source)]
  | toBool {source : Value F} (sourced : source.type = nativeBool) :
      Called lib target toBoolRoutine "ToBool" [(.byValue, some source)]
  | toNativeBool {source : Value F} (sourced : source.type = "bool") :
      Called lib target toNativeBoolRoutine "ToBOOL" [(.byValue, some source)]
  | wrapHandle {key source : Value F} (keyed : key.type = "int")
      (sourced : source.type = target.handleName) :
      Called lib target (wrapHandleRoutine target) "Wrap"
        [(.byValue, some key), (.byValue, some source)]
  | unwrapHandle {key source : Value F} (keyed : key.type = "int")
      (sourced : source.type = handleType) :
      Called lib target (unwrapHandleRoutine target) "Unwrap"
        [(.byValue, some key), (.byValue, some source)]

/-- The conversions of a class are those of its records, of booleans and of handles. -/
theorem mem_routines (member : routine ∈ lib.routines target) :
    (∃ conversion isClass record, record ∈ (if isClass then lib.classes else lib.structs) ∧
      (routine = lib.copyRoutine target conversion isClass record ∨
        routine = lib.allocatingRoutine target conversion isClass record)) ∨
      routine = toBoolRoutine ∨ routine = toNativeBoolRoutine ∨
        routine = wrapHandleRoutine target ∨ routine = unwrapHandleRoutine target := by
  have ofRecord : ∀ isClass record, record ∈ (if isClass then lib.classes else lib.structs) →
      routine ∈ lib.conversionRoutines target isClass record →
        ∃ conversion isClass record, record ∈ (if isClass then lib.classes else lib.structs) ∧
          (routine = lib.copyRoutine target conversion isClass record ∨
            routine = lib.allocatingRoutine target conversion isClass record) := by
    intro isClass record declared isRoutine
    simp only [conversionRoutines, List.mem_cons, List.not_mem_nil, or_false] at isRoutine
    rcases isRoutine with rfl | rfl | rfl | rfl
    · exact ⟨.wrap, isClass, record, declared, .inr rfl⟩
    · exact ⟨.unwrap, isClass, record, declared, .inr rfl⟩
    · exact ⟨.wrap, isClass, record, declared, .inl rfl⟩
    · exact ⟨.unwrap, isClass, record, declared, .inl rfl⟩
  rw [routines, List.mem_append, List.mem_append, List.mem_flatMap, List.mem_flatMap] at member
  rcases member with (⟨record, declared, isRoutine⟩ | ⟨record, declared, isRoutine⟩) | scalar
  · exact .inl (ofRecord false record declared isRoutine)
  · exact .inl (ofRecord true record declared isRoutine)
  · simpa [scalarConversions] using Or.inr scalar

/-- A routine that takes the arguments of a call. -/
theorem called_of_takes {modifiers : String} {signature : Signature} {body : Block}
    (member : .method modifiers signature body ∈ lib.routines target)
    (takes : List.Forall₂ Machine.Takes signature.params given) :
    Called lib target (.method modifiers signature body) signature.name given := by
  rcases mem_routines member with
    ⟨conversion, isClass, record, declared, same | same⟩ | same | same | same | same
  · obtain ⟨-, rfl, -⟩ := Member.method.inj same
    simp only [List.forall₂_cons_left_iff, List.forall₂_nil_left_iff] at takes
    obtain ⟨_, _, ⟨key, rfl, keyed⟩, ⟨_, _, ⟨source, rfl, sourced⟩,
      ⟨_, _, ⟨before, rfl, filled⟩, rfl, rfl⟩, rfl⟩, rfl⟩ := takes
    rw [same]
    exact .copy declared keyed sourced filled
  · obtain ⟨-, rfl, -⟩ := Member.method.inj same
    simp only [List.forall₂_cons_left_iff, List.forall₂_nil_left_iff] at takes
    obtain ⟨_, _, ⟨key, rfl, keyed⟩, ⟨_, _, ⟨source, rfl, sourced⟩, rfl, rfl⟩, rfl⟩ := takes
    rw [same]
    exact .allocate declared keyed sourced
  · obtain ⟨-, rfl, -⟩ := Member.method.inj same
    simp only [List.forall₂_cons_left_iff, List.forall₂_nil_left_iff] at takes
    obtain ⟨_, _, ⟨source, rfl, sourced⟩, rfl, rfl⟩ := takes
    rw [same]
    exact .toBool sourced
  · obtain ⟨-, rfl, -⟩ := Member.method.inj same
    simp only [List.forall₂_cons_left_iff, List.forall₂_nil_left_iff] at takes
    obtain ⟨_, _, ⟨source, rfl, sourced⟩, rfl, rfl⟩ := takes
    rw [same]
    exact .toNativeBool sourced
  · obtain ⟨-, rfl, -⟩ := Member.method.inj same
    simp only [List.forall₂_cons_left_iff, List.forall₂_nil_left_iff] at takes
    obtain ⟨_, _, ⟨key, rfl, keyed⟩, ⟨_, _, ⟨source, rfl, sourced⟩, rfl, rfl⟩, rfl⟩ := takes
    rw [same]
    exact .wrapHandle keyed sourced
  · obtain ⟨-, rfl, -⟩ := Member.method.inj same
    simp only [List.forall₂_cons_left_iff, List.forall₂_nil_left_iff] at takes
    obtain ⟨_, _, ⟨key, rfl, keyed⟩, ⟨_, _, ⟨source, rfl, sourced⟩, rfl, rfl⟩, rfl⟩ := takes
    rw [same]
    exact .unwrapHandle keyed sourced

/-- A call finds a routine that takes it. -/
theorem called_of_routine? (routines : M.routines = lib.routines target)
    (found : M.routine? name given = some routine) : Called lib target routine name given := by
  obtain ⟨isRoutine, _, _, _, rfl, rfl, takes⟩ := Machine.takes_of_routine? found
  exact called_of_takes (routines ▸ isRoutine) takes

/-- A routine that takes a call is a method of its name. -/
theorem Called.takes (called : Called lib target routine name given) :
    routine ∈ lib.routines target ∧ ∃ modifiers signature body,
      routine = .method modifiers signature body ∧ signature.name = name ∧
        List.Forall₂ Machine.Takes signature.params given := by
  cases called with
  | @copy conversion isClass record _ _ _ declared keyed sourced filled =>
    refine ⟨routine_mem declared ?_, _, _, _, rfl, rfl, ?_⟩
    · cases conversion <;> simp [conversionRoutines]
    · exact .cons ⟨_, rfl, keyed⟩ (.cons ⟨_, rfl, sourced⟩ (.cons ⟨_, rfl, filled⟩ .nil))
  | @allocate conversion isClass record _ _ declared keyed sourced =>
    refine ⟨routine_mem declared ?_, _, _, _, rfl, rfl, ?_⟩
    · cases conversion <;> simp [conversionRoutines]
    · exact .cons ⟨_, rfl, keyed⟩ (.cons ⟨_, rfl, sourced⟩ .nil)
  | toBool sourced =>
    exact ⟨by simp [routines, scalarConversions], _, _, _, rfl, rfl, .cons ⟨_, rfl, sourced⟩ .nil⟩
  | toNativeBool sourced =>
    exact ⟨by simp [routines, scalarConversions], _, _, _, rfl, rfl, .cons ⟨_, rfl, sourced⟩ .nil⟩
  | wrapHandle keyed sourced =>
    exact ⟨by simp [routines, scalarConversions], _, _, _, rfl, rfl,
      .cons ⟨_, rfl, keyed⟩ (.cons ⟨_, rfl, sourced⟩ .nil)⟩
  | unwrapHandle keyed sourced =>
    exact ⟨by simp [routines, scalarConversions], _, _, _, rfl, rfl,
      .cons ⟨_, rfl, keyed⟩ (.cons ⟨_, rfl, sourced⟩ .nil)⟩

/-! ### One routine for each call -/

section Unique

variable (accepted : lib.Accepted) (plain : lib.PlainRecords)
include accepted plain

/-- A record is spelled with its name on the application surface, and with a suffix natively. -/
theorem typeName_record (mode : Mode) {isClass : Bool} {record : Record}
    (declared : record ∈ if isClass then lib.classes else lib.structs) :
    lib.typeName mode (.named record.name) =
      if mode.isNative then record.name ++ mode.target.recordSuffix else record.name := by
  have kind := kindOfName_record accepted.sound.typeNames_nodup plain declared
  cases isClass <;> cases native : mode.isNative <;> simp_all [typeName]

/-- A spelling on a surface is that of one record only. -/
theorem record_eq_of_typeName {mode : Mode} {isClass other : Bool} {record found : Record}
    (declared : record ∈ if isClass then lib.classes else lib.structs)
    (alsoDeclared : found ∈ if other then lib.classes else lib.structs)
    (same : lib.typeName mode (.named record.name) = lib.typeName mode (.named found.name)) :
    isClass = other ∧ record = found := by
  refine record_eq_of_name accepted.sound.typeNames_nodup declared alsoDeclared ?_
  rw [typeName_record accepted plain mode declared, typeName_record accepted plain mode alsoDeclared]
    at same
  split at same
  · simpa using same
  · exact same

/-- No record is spelled like the handle. -/
theorem typeName_record_ne_handle (mode : Mode) {isClass : Bool} {record : Record}
    (declared : record ∈ if isClass then lib.classes else lib.structs) :
    lib.typeName mode (.named record.name) ≠
      if mode.isNative then mode.target.handleName else handleType := by
  rw [typeName_record accepted plain mode declared]
  split
  · intro same
    have endings := congrArg (fun text => text.toList.getLast?) same
    cases target : mode.target <;> simp [target, Target.recordSuffix, Target.handleName] at endings
  · exact (plain.of_declared declared).2

omit accepted in
/-- No record is spelled `void`. -/
theorem typeName_record_ne_void (mode : Mode) {isClass : Bool} {record : Record}
    (declared : record ∈ if isClass then lib.classes else lib.structs) :
    lib.typeName mode (.named record.name) ≠ "void" := by
  refine typeName_ne_void _ fun same => ?_
  have notPrimitive := (plain.of_declared declared).1
  rw [TypeRef.named.inj same] at notPrimitive
  exact absurd notPrimitive (by decide)

/-- A conversion of a record is not called with a handle. -/
theorem allocate_ne_handle {conversion : Conversion} {isClass : Bool} {record : Record}
    (declared : record ∈ if isClass then lib.classes else lib.structs) {type routineName : String}
    (isHandle : routineName = "Wrap" ∧ type = target.handleName ∨
      routineName = "Unwrap" ∧ type = handleType)
    (named : conversion.valueRoutine = routineName) :
    lib.typeName (conversion.sourceMode target) (.named record.name) ≠ type := by
  have apart := typeName_record_ne_handle accepted plain (conversion.sourceMode target) declared
  rcases isHandle with ⟨rfl, rfl⟩ | ⟨rfl, rfl⟩
  · cases conversion with
    | wrap => exact apart
    | unwrap => exact absurd named (by decide)
  · cases conversion with
    | wrap => exact absurd named (by decide)
    | unwrap => exact apart

/-- Two routines that take the same call are the same. -/
theorem called_unique {otherName : String} {otherGiven : Given F}
    (called : Called lib target routine name given)
    (alsoCalled : Called lib target other otherName otherGiven) (sameName : name = otherName)
    (sameGiven : given = otherGiven) : routine = other := by
  have conversions : ∀ {conversion other : Conversion},
      conversion.copyRoutine = other.copyRoutine ∨ conversion.valueRoutine = other.valueRoutine →
        conversion = other := by
    intro conversion other same
    revert same
    cases conversion <;> cases other <;> decide
  cases called with
  | copy declared keyed sourced filled =>
    cases alsoCalled with
    | copy alsoDeclared _ alsoSourced _ =>
      obtain rfl := conversions (.inl sameName)
      obtain ⟨-, rfl, -⟩ : _ ∧ _ = _ ∧ _ := by simpa using sameGiven
      obtain ⟨rfl, rfl⟩ := record_eq_of_typeName accepted plain declared alsoDeclared
        (sourced.symm.trans alsoSourced)
      rfl
    | _ => simp at sameGiven
  | allocate declared keyed sourced =>
    cases alsoCalled with
    | allocate alsoDeclared _ alsoSourced =>
      obtain rfl := conversions (.inr sameName)
      obtain ⟨-, rfl⟩ : _ ∧ _ = _ := by simpa using sameGiven
      obtain ⟨rfl, rfl⟩ := record_eq_of_typeName accepted plain declared alsoDeclared
        (sourced.symm.trans alsoSourced)
      rfl
    | wrapHandle _ alsoSourced =>
      obtain ⟨-, rfl⟩ : _ ∧ _ = _ := by simpa using sameGiven
      exact absurd (sourced.symm.trans alsoSourced)
        (allocate_ne_handle accepted plain declared (.inl ⟨rfl, rfl⟩) sameName)
    | unwrapHandle _ alsoSourced =>
      obtain ⟨-, rfl⟩ : _ ∧ _ = _ := by simpa using sameGiven
      exact absurd (sourced.symm.trans alsoSourced)
        (allocate_ne_handle accepted plain declared (.inr ⟨rfl, rfl⟩) sameName)
    | _ => simp at sameGiven
  | toBool | toNativeBool =>
    cases alsoCalled with
    | toBool | toNativeBool => first | rfl | exact absurd sameName (by decide)
    | _ => simp at sameGiven
  | wrapHandle keyed sourced =>
    cases alsoCalled with
    | allocate alsoDeclared _ alsoSourced =>
      obtain ⟨-, rfl⟩ : _ ∧ _ = _ := by simpa using sameGiven
      exact absurd (alsoSourced.symm.trans sourced)
        (allocate_ne_handle accepted plain alsoDeclared (.inl ⟨rfl, rfl⟩) sameName.symm)
    | wrapHandle => rfl
    | unwrapHandle => exact absurd sameName (by decide)
    | _ => simp at sameGiven
  | unwrapHandle keyed sourced =>
    cases alsoCalled with
    | allocate alsoDeclared _ alsoSourced =>
      obtain ⟨-, rfl⟩ : _ ∧ _ = _ := by simpa using sameGiven
      exact absurd (alsoSourced.symm.trans sourced)
        (allocate_ne_handle accepted plain alsoDeclared (.inr ⟨rfl, rfl⟩) sameName.symm)
    | wrapHandle => exact absurd sameName (by decide)
    | unwrapHandle => rfl
    | _ => simp at sameGiven

/-- The routine that takes a call is the one that it finds. -/
theorem routine?_of_called (routines : M.routines = lib.routines target)
    (called : Called lib target routine name given) : M.routine? name given = some routine := by
  obtain ⟨member, modifiers, signature, body, rfl, named, takes⟩ := called.takes
  refine Machine.routine?_of_unique (routines ▸ member) named takes ?_
  intro modifiers' signature' body' member' named' takes'
  have alsoCalled := called_of_takes (routines ▸ member') takes'
  exact called_unique accepted plain alsoCalled called named' rfl

/-- A call runs the routine that takes it. -/
theorem invoke?_of_called (routines : M.routines = lib.routines target)
    (called : Called lib target routine name given) {finals : List (Value F)} {result : Value F} :
    M.invoke? name given = some (finals, result) ↔
      M.run? routine (given.map Prod.snd) = some ⟨[], finals, result⟩ := by
  rw [Machine.invoke?_iff]
  simp only [routine?_of_called accepted plain routines called, Option.some.injEq, exists_eq_left']

end Unique

end Library

end InteropGlue
