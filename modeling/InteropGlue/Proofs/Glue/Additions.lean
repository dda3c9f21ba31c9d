import InteropGlue.Glue.Source
import InteropGlue.Proofs.Library.Additions
/-!
# Source with one more declaration

The glue of a declaration looks at the kinds of the types in it and at nothing else of the library.
A declaration that is added under a new name has no influence on these kinds, so all that was
generated before is generated again, member by member.

## Main Definitions

* `Library.SameGlue` — the glue of all declarations of a library, generated from another one.

## Main Results

* `Library.implementation_of_agree`, `Library.conversionRoutines_of_agree`,
  `Library.recordDecl_of_agree`, `Library.forwarder_of_agree` and its like — the glue of one
  declaration, from two libraries that agree on its types.
* `Library.sameGlue_of_agree` — the glue of all declarations.
* `Library.addition_is_local` — what a new declaration leaves as it is.

## Design Notes

Agreement is only asked for on the types of the declaration in question. A struct or class is
spelled by its own name too, so its name counts as one of its types here.
-/

namespace InteropGlue

open CSharp

namespace Library

variable {lib other : Library}

/-! ### Functions -/

section Functions

variable {f : Function} (agree : ∀ type ∈ f.types, lib.AgreeOn other type)

include agree

theorem parameters_of_agree (mode : Mode) : lib.parameters mode f = other.parameters mode f := by
  apply List.map_congr_left
  intro p isParam
  unfold parameter
  rw [(agree _ (Function.type_mem_types isParam)).typeName_eq]

theorem signature_of_agree (mode : Mode) (name : String) :
    lib.signature mode name f = other.signature mode name f := by
  unfold signature
  rw [(agree _ f.returnType_mem_types).typeName_eq, parameters_of_agree agree]

theorem delegateOf_of_agree (mode : Mode) (name : String) :
    lib.delegateOf mode name f = other.delegateOf mode name f := by
  unfold delegateOf
  rw [signature_of_agree agree]

theorem paramsOfKind_of_agree (kind : Kind) (written : Bool) :
    lib.paramsOfKind f kind written = other.paramsOfKind f kind written := by
  apply List.filter_congr
  intro p isParam
  rw [(agree _ (Function.type_mem_types isParam)).kindOf_eq]

theorem buckets_of_agree : lib.buckets f = other.buckets f := by
  unfold buckets
  simp only [paramsOfKind_of_agree agree]

theorem entryCall_of_agree : lib.entryCall f = other.entryCall f := by
  have args : f.params.map lib.callArgument = f.params.map other.callArgument := by
    apply List.map_congr_left
    intro p isParam
    unfold callArgument
    rw [(agree _ (Function.type_mem_types isParam)).kindOf_eq]
  unfold entryCall
  rw [args]

omit agree in
/-- The parameters with a treatment are parameters of the function. -/
theorem mem_params_of_mem_bucket {kind : Kind} {written : Bool} {p : Param}
    (inBucket : p ∈ lib.paramsOfKind f kind written) : p ∈ f.params :=
  List.mem_of_mem_filter inBucket

theorem temporaries_of_agree (target : Target) :
    lib.temporaries target f = other.temporaries target f := by
  have nativeType : ∀ p ∈ f.params, lib.nativeType target p = other.nativeType target p :=
    fun p isParam => (agree _ (Function.type_mem_types isParam)).typeName_eq (.native target)
  have handles : (other.buckets f).outHandles.map (lib.handleTemporary target) =
      (other.buckets f).outHandles.map (other.handleTemporary target) := by
    apply List.map_congr_left
    intro p inBucket
    unfold handleTemporary
    rw [nativeType p (mem_params_of_mem_bucket inBucket)]
  have structs : (other.buckets f).structs.map (lib.structTemporary target) =
      (other.buckets f).structs.map (other.structTemporary target) := by
    apply List.map_congr_left
    intro p inBucket
    unfold structTemporary
    rw [nativeType p (mem_params_of_mem_bucket inBucket)]
  have classes : (other.buckets f).classes.map (lib.classTemporary target) =
      (other.buckets f).classes.map (other.classTemporary target) := by
    apply List.map_congr_left
    intro p inBucket
    unfold classTemporary
    rw [nativeType p (mem_params_of_mem_bucket inBucket)]
  unfold temporaries
  rw [buckets_of_agree agree, handles, structs, classes]

theorem writeBacks_of_agree (target : Target) :
    lib.writeBacks target f = other.writeBacks target f := by
  have classes : (other.buckets f).classes.flatMap (lib.classWriteBack target) =
      (other.buckets f).classes.flatMap (other.classWriteBack target) := by
    apply List.flatMap_congr
    intro p inBucket
    unfold classWriteBack
    rw [(agree _ (Function.type_mem_types (mem_params_of_mem_bucket inBucket))).typeName_eq]
  unfold writeBacks
  rw [buckets_of_agree agree, classes]

/-- Libraries that agree on the types of a function implement it alike. -/
theorem implementation_of_agree (target : Target) :
    lib.implementation target f = other.implementation target f := by
  have kept : lib.keepAlives f = other.keepAlives f := by
    unfold keepAlives
    rw [buckets_of_agree agree]
  have returned : lib.returnSteps f = other.returnSteps f := by
    unfold returnSteps
    rw [(agree _ f.returnType_mem_types).kindOf_eq]
  unfold implementation implementationSteps
  rw [signature_of_agree agree, temporaries_of_agree agree, entryCall_of_agree agree, kept,
    writeBacks_of_agree agree, returned]

end Functions

/-! ### Structs and classes -/

/-- Libraries that agree on a type copy its values alike. -/
theorem copyValue_of_agree {type : TypeRef} (agree : lib.AgreeOn other type) (rule : CopyRule)
    (source dest : Expr) (count : Option Expr) :
    lib.copyValue rule source dest count type = other.copyValue rule source dest count type := by
  induction type generalizing rule source dest count with
  | named name =>
    have filled : lib.fillClass rule (.named name) source dest =
        other.fillClass rule (.named name) source dest := by
      unfold fillClass
      rw [agree.typeName_eq]
    unfold copyValue
    rw [filled, show lib.kindOfName name = other.kindOfName name from agree]
  | array element bound ih =>
    have elements : lib.AgreeOn other element := agree
    rw [copyValue, copyValue, ih elements, elements.typeName_eq]

section Records

variable {record : Record} (named : lib.AgreeOn other (.named record.name))
  (agree : ∀ type ∈ record.types, lib.AgreeOn other type)

include named agree

/-- Libraries that agree on a record and its types declare it alike. -/
theorem recordDecl_of_agree (mode : Mode) (isClass : Bool) :
    lib.recordDecl mode isClass record = other.recordDecl mode isClass record := by
  have fields :
      (record.fields.map fun field => Section.entry (lib.fieldMember mode isClass field)) =
        record.fields.map fun field => Section.entry (other.fieldMember mode isClass field) := by
    apply List.map_congr_left
    intro field isField
    have onField := agree _ (Record.type_mem_types isField)
    unfold fieldMember initialValue?
    rw [onField.typeName_eq, onField.kindOf_eq]
  unfold recordDecl
  rw [named.typeName_eq, fields]

/-- Libraries that agree on a record and its types convert it alike. -/
theorem conversionRoutines_of_agree (target : Target) (isClass : Bool) :
    lib.conversionRoutines target isClass record =
      other.conversionRoutines target isClass record := by
  have allocating : ∀ conversion, lib.allocatingRoutine target conversion isClass record =
      other.allocatingRoutine target conversion isClass record := by
    intro conversion
    unfold allocatingRoutine
    rw [named.typeName_eq, named.typeName_eq]
  have copying : ∀ conversion, lib.copyRoutine target conversion isClass record =
      other.copyRoutine target conversion isClass record := by
    intro conversion
    have fields : record.fields.map (lib.copyField target conversion) =
        record.fields.map (other.copyField target conversion) := by
      apply List.map_congr_left
      intro field isField
      exact copyValue_of_agree (agree _ (Record.type_mem_types isField)) _ _ _ _
    unfold copyRoutine
    rw [named.typeName_eq, named.typeName_eq, fields]
  unfold conversionRoutines
  rw [allocating, allocating, copying, copying]

end Records

/-! ### Events -/

section Events

variable {event : Event} (agree : ∀ type ∈ event.handler.types, lib.AgreeOn other type)

include agree

theorem raiser_of_agree (mode : Mode) : lib.raiser mode event = other.raiser mode event := by
  unfold raiser
  rw [parameters_of_agree agree]

/-- Libraries that agree on the types of an event forward it alike. -/
theorem forwarder_of_agree (target : Target) :
    lib.forwarder target event = other.forwarder target event := by
  have args : event.handler.params.map lib.forwardedArgument =
      event.handler.params.map other.forwardedArgument := by
    apply List.map_congr_left
    intro p isParam
    unfold forwardedArgument
    rw [(agree _ (Function.type_mem_types isParam)).kindOf_eq]
  unfold forwarder
  rw [parameters_of_agree agree, args]

end Events

/-! ### All declarations -/

/-- Another library generates the same glue for all declarations of a library. -/
structure SameGlue (lib other : Library) : Prop where
  implementation : ∀ target, ∀ f ∈ lib.functions,
    other.implementation target f = lib.implementation target f
  routines : ∀ target isClass, ∀ record ∈ lib.structs ++ lib.classes,
    other.conversionRoutines target isClass record = lib.conversionRoutines target isClass record
  records : ∀ mode isClass, ∀ record ∈ lib.structs ++ lib.classes,
    other.recordDecl mode isClass record = lib.recordDecl mode isClass record
  enums : ∀ mode, ∀ enum ∈ lib.enums, other.enumDecl mode enum = lib.enumDecl mode enum
  /-- The delegate types of handlers, on all surfaces. -/
  handlers : ∀ mode, ∀ event ∈ lib.events,
    other.handlerDelegate mode event = lib.handlerDelegate mode event
  /-- The abstract classes of functions and events. -/
  abstractClasses : ∀ names mode, other.functionsClass names mode = lib.functionsClass names mode ∧
    other.eventsClass names = lib.eventsClass names
  /-- The class of entry points, with their delegate types. -/
  entryPoints : ∀ names target,
    other.entryPointsClass names target = lib.entryPointsClass names target
  /-- The two classes of events, with the fields, accessors, raisers and forwarding methods. -/
  eventClasses : ∀ names target,
    other.nativeEventsClass names target = lib.nativeEventsClass names target ∧
      other.forwarderClass names target = lib.forwarderClass names target

/-- Libraries with the same functions and events that agree on all types that occur in one of them
generate the same glue for its declarations. -/
theorem sameGlue_of_agree (functions : other.functions = lib.functions)
    (events : other.events = lib.events)
    (agree : ∀ type ∈ lib.occurring, other.AgreeOn lib type) : lib.SameGlue other := by
  have ofFunction : ∀ f ∈ lib.functions, ∀ type ∈ f.types, other.AgreeOn lib type :=
    fun f declared type inside =>
      agree type (mem_occurring_of_signature (List.mem_append_left _ declared) inside)
  have ofEvent : ∀ event ∈ lib.events, ∀ type ∈ event.handler.types, other.AgreeOn lib type :=
    fun event declared type inside => agree type
      (mem_occurring_of_signature (List.mem_append_right _ (List.mem_map_of_mem declared)) inside)
  have ofRecord : ∀ record ∈ lib.structs ++ lib.classes, ∀ type ∈ record.types,
      other.AgreeOn lib type := fun record declared type inside =>
    agree type (mem_occurring_of_record declared inside)
  have ofName : ∀ record ∈ lib.structs ++ lib.classes, other.AgreeOn lib (.named record.name) :=
    fun record declared => agree _ (mem_occurring_of_declared (mem_typeNames_of_record declared))
  have handlers : ∀ mode, ∀ event ∈ lib.events,
      other.handlerDelegate mode event = lib.handlerDelegate mode event :=
    fun mode event declared => delegateOf_of_agree (ofEvent event declared) mode _
  have raisers : ∀ mode, lib.events.map (other.raiser mode) = lib.events.map (lib.raiser mode) :=
    fun mode => List.map_congr_left fun event declared =>
      raiser_of_agree (ofEvent event declared) mode
  refine
    { implementation := fun target f declared =>
        implementation_of_agree (ofFunction f declared) target
      routines := fun target isClass record declared =>
        conversionRoutines_of_agree (ofName record declared) (ofRecord record declared) target
          isClass
      records := fun mode isClass record declared =>
        recordDecl_of_agree (ofName record declared) (ofRecord record declared) mode isClass
      enums := fun mode enum declared => ?_
      handlers
      abstractClasses := fun names mode => ⟨?_, ?_⟩
      entryPoints := fun names target => ?_
      eventClasses := fun names target => ⟨?_, ?_⟩ }
  · unfold enumDecl
    rw [(agree _ (mem_occurring_of_enum declared)).typeName_eq]
  · unfold functionsClass
    rw [functions, List.map_congr_left fun f declared => ?_]
    rw [signature_of_agree (ofFunction f declared)]
  · unfold eventsClass
    rw [events]
  · have delegates :
        other.entryPointDelegates names target = lib.entryPointDelegates names target := by
      unfold entryPointDelegates
      rw [functions, events, List.map_congr_left fun f declared =>
        delegateOf_of_agree (ofFunction f declared) (.native target) (pointerName f.name)]
    unfold entryPointsClass entryPointNames
    rw [delegates, functions, events]
  · have delegates : (lib.events.map fun event =>
        Member.delegate (other.handlerDelegate (.native target) event)) =
        lib.events.map fun event => Member.delegate (lib.handlerDelegate (.native target) event) :=
      List.map_congr_left fun event declared =>
        congrArg Member.delegate (handlers (.native target) event declared)
    unfold nativeEventsClass nativeEventSections
    rw [events, delegates, raisers]
  · have forwarders :
        lib.events.map (other.forwarder target) = lib.events.map (lib.forwarder target) :=
      List.map_congr_left fun event declared => forwarder_of_agree (ofEvent event declared) target
    unfold forwarderClass forwardingSections detachRoutine
    rw [events, raisers, forwarders]

/-- A declaration added to an accepted library under a new name leaves the kinds of all types that
occur in the library as they are, has all defects of the larger library, and changes no glue of what
was declared before. -/
theorem addition_is_local {larger : Library} {addition : Addition} (accepted : lib.Accepted)
    (fresh : lib.Fresh addition.name) (added : lib.Adds addition larger) :
    (∀ type ∈ lib.occurring, ∀ level ∈ type.levels,
        larger.kindOf level = lib.kindOf level ∧
          larger.needsConversion level = lib.needsConversion level) ∧
      (larger.defects = larger.additionDefects addition ∧
        (∀ defect ∈ larger.defects, addition.Owns defect.place) ∧
        (larger.Accepted ↔ larger.SoundAlone addition)) ∧
      lib.SameGlue larger := by
  have agree : ∀ type ∈ lib.occurring, larger.AgreeOn lib type := fun type occurs =>
    added.agreeOn_of_occurring accepted fresh occurs
  have defects := added.defects_eq accepted fresh
  refine ⟨fun type occurs level isLevel => ?_, ⟨defects, fun defect found => ?_,
    added.accepted_iff accepted fresh⟩, sameGlue_of_agree added.functions_eq added.events_eq agree⟩
  · have onLevel := (agree type occurs).of_level isLevel
    exact ⟨onLevel.kindOf_eq, onLevel.needsConversion_eq⟩
  · rw [defects] at found
    exact owns_of_mem_additionDefects found

end Library

/-! ### A struct between two others -/

namespace Sample

def position : Record := ⟨"Position", [⟨"x", .named "int", none⟩, ⟨"y", .named "int", none⟩]⟩

/-- A struct that holds a struct declared before and an array of one declared behind it. -/
def area : Record :=
  ⟨"Area", [⟨"corner", .named "Position", none⟩, ⟨"count", .named "int", none⟩,
    ⟨"shapes", .array (.named "Shape") (some "count"), none⟩]⟩

def shape : Record :=
  ⟨"Shape", [⟨"owner", .named handleType, none⟩, ⟨"center", .named "Position", none⟩]⟩

/-- A library with a declaration of each kind that may come next to a new struct. -/
def drawing (structs : List Record) : Library :=
  { Library.empty with
    functions :=
      [⟨"GetShape", .named "bool",
        [⟨"vmid", .named "int", .input, none⟩, ⟨"mode", .named "Mode", .input, none⟩,
          ⟨"shape", .named "Shape", .output, none⟩], none⟩]
    events :=
      [⟨"Moved", ⟨"MovedEventHandler", .named "void",
        [⟨"vmid", .named "int", .input, none⟩, ⟨"shape", .named handleType, .input, none⟩], none⟩⟩]
    enums := [⟨"Mode", .named "int", false, [⟨"Idle", "0"⟩]⟩]
    structs }

theorem area_is_local :
    (drawing [position, shape]).Accepted ∧
      (drawing [position, shape]).Fresh (Addition.structType area).name ∧
      (drawing [position, area, shape]).defects = [] ∧
      (drawing [position, shape]).SameGlue (drawing [position, area, shape]) := by
  have accepted : (drawing [position, shape]).Accepted := by cbv
  have fresh : (drawing [position, shape]).Fresh (Addition.structType area).name :=
    { undeclared := by decide
      notPrimitive := by
        rw [← isSome_canonicalPrimitive?_iff]
        decide
      notHandle := by decide
      notFramework := by decide }
  have added : (drawing [position, shape]).Adds (.structType area)
      (drawing [position, area, shape]) := .structType ⟨[position], [shape], rfl, rfl⟩
  obtain ⟨-, ⟨same, -, -⟩, glue⟩ := Library.addition_is_local accepted fresh added
  refine ⟨accepted, fresh, ?_, glue⟩
  rw [same]
  cbv

end Sample

end InteropGlue
