import InteropGlue.Glue.Source
import InteropGlue.Proofs.CSharp.Arrangement
import InteropGlue.Proofs.Library.Annotations
import Mathlib.Data.List.Forall2
/-!
# Annotations are confined

Marshaling annotations are written where native layout is declared, and nowhere else. A file for a
library without its annotations is the file for the library, less the annotations of native delegate
types, of fields of native records, of raisers of native events and of forwarding methods.

## Main Definitions

* `Member.bare` — a member without annotations.
* `annotated` — the members of a native type that may have annotations.
* `Chapter.unannotated` — a native surface without annotations.
* `SameButAnnotations` — files that differ in annotations of native surfaces only.

## Main Results

* `Library.applicationChapter_bare`, `Library.nativeFunctionsClass_bare` — the application surface
  and the classes of functions have no annotations.
* `Library.nativeChapter_bare` — a native surface without annotations is the surface for the library
  without them.
* `Library.annotations_confined` — what two libraries share that differ in annotations only.

## Design Notes

Bodies are built from names, types and directions, so they are the same without annotations. The
conversions are among them, and with these every allocation of an array: a size constant describes
native layout and never bounds a loop.
-/

namespace InteropGlue

open CSharp

/-! ### Members without annotations -/

namespace CSharp

/-- A declared parameter without its annotation. -/
def Parameter.bare (p : Parameter) : Parameter := { p with marshal := none }

/-- A declared signature without annotations. -/
def Signature.bare (signature : Signature) : Signature :=
  { signature with params := signature.params.map Parameter.bare }

/-- A delegate type without annotations: of its attributes only the calling convention is left. -/
def Delegate.bare (delegate : Delegate) : Delegate :=
  { attributes := delegate.attributes.filter (· == functionPointer)
    signature := delegate.signature.bare }

/-- A member without annotations. -/
def Member.bare : Member → Member
  | .field _ modifiers type name initial => .field [] modifiers type name initial
  | .method modifiers signature body => .method modifiers signature.bare body
  | .delegate declared => .delegate declared.bare
  | other => other

/-- A field. -/
def Member.declaresField : Member → Bool
  | .field _ _ _ _ _ => true
  | _ => false

/-- A delegate type. -/
def Member.declaresDelegate : Member → Bool
  | .delegate _ => true
  | _ => false

/-- A delegate type or a method. -/
def Member.declaresSignature : Member → Bool
  | .delegate _ | .method _ _ _ => true
  | _ => false

/-- A method whose name says that it passes a native callback on. -/
def Member.isForwarding : Member → Bool
  | .method _ signature _ => "Forward".toList.isPrefixOf signature.name.toList
  | _ => false

end CSharp

/-- The members of a native type that may have annotations: fields of records, delegate types of
entry points and events, raisers of native events, and forwarding methods. -/
def annotated (names : ClassNames) (target : Target) (decl : TypeDecl) (member : Member) : Bool :=
  match decl.sort with
  | .struct | .plainClass => member.declaresField
  | .partialClass =>
    if decl.name = names.entryPoints target then member.declaresDelegate
    else if decl.name = names.nativeEvents target then member.declaresSignature
    else if decl.name = names.forwarder target then member.isForwarding
    else false
  | .abstractClass | .enum => false

/-- A member, without annotations if it is among some. -/
def CSharp.Member.bareIf (place : Member → Bool) (member : Member) : Member :=
  if place member then member.bare else member

theorem CSharp.Member.bareIf_of_true {place : Member → Bool} {member : Member}
    (isPlace : place member = true) : member.bareIf place = member.bare := if_pos isPlace

theorem CSharp.Member.bareIf_of_false {place : Member → Bool} {member : Member}
    (isNone : place member = false) : member.bareIf place = member :=
  if_neg (isNone ▸ Bool.false_ne_true)

/-- A type with some of its members without annotations. -/
def CSharp.TypeDecl.bareAt (place : Member → Bool) (decl : TypeDecl) : TypeDecl :=
  { decl with body := decl.body.map (Section.map (Member.bareIf place)) }

/-- A declaration without annotations. -/
def CSharp.Declaration.unannotated (names : ClassNames) (target : Target) :
    Declaration → Declaration
  | .type decl => .type (decl.bareAt (annotated names target decl))
  | .delegate declared => .delegate declared

/-- A native surface without annotations. -/
def CSharp.Chapter.unannotated (names : ClassNames) (target : Target) (chapter : Chapter) :
    Chapter :=
  { chapter with body := chapter.body.map (Section.map (Declaration.unannotated names target)) }

namespace Library

variable (lib : Library) (mode : Mode) (names : ClassNames) (target : Target)

/-! ### Declarations -/

@[simp] theorem typeName_bare (type : TypeRef) :
    lib.bare.typeName mode type = lib.typeName mode type := by
  induction type with
  | named name => rw [typeName, typeName, kindOfName_bare]
  | array element count ih => rw [typeName, typeName, ih]

theorem marshalAttribute?_none (place : AttributePlace) :
    marshalAttribute? mode place none = none := by
  rw [marshalAttribute?]
  split <;> rfl

theorem parameter_bare (p : Param) :
    lib.bare.parameter mode p.bare = (lib.parameter mode p).bare := by
  rw [parameter, parameter, typeName_bare, Parameter.bare, Param.bare, marshalAttribute?_none]

theorem parameters_bare (f : Function) :
    lib.bare.parameters mode f.bare = (lib.parameters mode f).map Parameter.bare :=
  map_bare_map f.params (lib.parameter_bare mode)

theorem bare_parameters_application (f : Function) :
    (lib.parameters (.application target) f).map Parameter.bare =
      lib.parameters (.application target) f := by
  rw [parameters, List.map_map]
  exact List.map_congr_left fun _ _ => rfl

theorem signature_bare (name : String) (f : Function) :
    lib.bare.signature mode name f.bare = (lib.signature mode name f).bare := by
  rw [signature, signature, parameters_bare, typeName_bare]
  rfl

/-- The application surface has no annotations. -/
theorem bare_signature_application (name : String) (f : Function) :
    (lib.signature (.application target) name f).bare =
      lib.signature (.application target) name f := by
  rw [Signature.bare, signature, bare_parameters_application]

theorem signature_application_bare (name : String) (f : Function) :
    lib.bare.signature (.application target) name f.bare =
      lib.signature (.application target) name f := by
  rw [signature_bare, bare_signature_application]

/-- The annotation of a returned value is told from the calling convention by its first word. -/
theorem marshalAttribute?_returned_ne (marshal : Option Marshal) :
    marshalAttribute? mode .returned marshal ≠ some functionPointer := by
  intro same
  rw [marshalAttribute?] at same
  split at same
  · obtain ⟨native, -, text⟩ := Option.map_eq_some_iff.mp same
    have letters := congrArg (fun text => text.toList.take 2) text
    simp [functionPointer] at letters
  · cases same

theorem delegateOf_bare (name : String) (f : Function) :
    lib.bare.delegateOf (.native target) name f.bare =
      (lib.delegateOf (.native target) name f).bare := by
  have noReturned : ∀ marshal : Option Marshal,
      (marshalAttribute? (.native target) .returned marshal).toList.filter (· == functionPointer) =
        [] := by
    intro marshal
    rw [List.filter_eq_nil_iff]
    intro text isAttribute isConvention
    rw [eq_of_beq isConvention] at isAttribute
    exact marshalAttribute?_returned_ne _ marshal (Option.mem_toList.mp isAttribute)
  rw [delegateOf, delegateOf, signature_bare, Delegate.bare, List.filter_append, noReturned]
  rfl

theorem delegateOf_application_bare (name : String) (f : Function) :
    lib.bare.delegateOf (.application target) name f.bare =
      lib.delegateOf (.application target) name f := by
  rw [delegateOf, delegateOf, signature_application_bare]
  rfl

theorem enumDecl_bare : lib.bare.enumDecl mode = lib.enumDecl mode := by
  funext enum
  rw [enumDecl, enumDecl, typeName_bare]

theorem fieldMember_bare (isClass : Bool) (field : Field) :
    lib.bare.fieldMember mode isClass field.bare = (lib.fieldMember mode isClass field).bare := by
  have initial : lib.bare.initialValue? mode isClass field.bare =
      lib.initialValue? mode isClass field := by
    rw [initialValue?, initialValue?, kindOf_bare, typeName_bare]
    rfl
  rw [fieldMember, initial, typeName_bare, Field.bare, marshalAttribute?_none]
  rfl

/-- A record without annotations in its fields. -/
theorem recordDecl_bare (isClass : Bool) (record : Record) :
    lib.bare.recordDecl mode isClass record.bare =
      (lib.recordDecl mode isClass record).bareAt Member.declaresField := by
  have fields : (record.fields.map Field.bare).map
      (fun field => Section.entry (lib.bare.fieldMember mode isClass field)) =
      (record.fields.map fun field => Section.entry (lib.fieldMember mode isClass field)).map
        (Section.map (Member.bareIf Member.declaresField)) :=
    map_bare_map record.fields fun field =>
      congrArg Section.entry (lib.fieldMember_bare mode isClass field)
  rw [recordDecl, recordDecl, TypeDecl.bareAt, typeName_bare, Record.bare]
  exact congrArg _ fields

theorem recordDecl_application_bare (isClass : Bool) (record : Record) :
    lib.bare.recordDecl (.application target) isClass record.bare =
      lib.recordDecl (.application target) isClass record := by
  have fields : ((lib.recordDecl (.application target) isClass record).body.map
      (Section.map (Member.bareIf Member.declaresField))) =
      (lib.recordDecl (.application target) isClass record).body := by
    rw [recordDecl, List.map_map]
    exact List.map_congr_left fun _ _ => rfl
  rw [recordDecl_bare, TypeDecl.bareAt, fields]

theorem recordDecls_application_bare :
    lib.bare.recordDecls (.application target) = lib.recordDecls (.application target) := by
  have structs : lib.bare.structs.map (lib.bare.recordDecl (.application target) false) =
      lib.structs.map (lib.recordDecl (.application target) false) :=
    map_bare_eq lib.structs (lib.recordDecl_application_bare target false)
  have classes : lib.bare.classes.map (lib.bare.recordDecl (.application target) true) =
      lib.classes.map (lib.recordDecl (.application target) true) :=
    map_bare_eq lib.classes (lib.recordDecl_application_bare target true)
  rw [recordDecls, recordDecls, structs, classes]

/-! ### The application surface -/

theorem functionsClass_bare :
    lib.bare.functionsClass names (.application target) =
      lib.functionsClass names (.application target) := by
  have methods : lib.bare.functions.map (fun f =>
      Section.entry (Member.abstractMethod (lib.bare.signature (.application target) f.name f))) =
      lib.functions.map fun f =>
        Section.entry (Member.abstractMethod (lib.signature (.application target) f.name f)) :=
    map_bare_eq lib.functions fun f => congrArg (fun signature => Section.entry
      (Member.abstractMethod signature)) (lib.signature_application_bare target f.name f)
  rw [functionsClass, functionsClass, methods]

theorem eventsClass_bare : lib.bare.eventsClass names = lib.eventsClass names := by
  rw [eventsClass, eventsClass, events_bare, List.map_map]
  rfl

/-- The application surface has no annotations. -/
theorem applicationChapter_bare :
    lib.bare.applicationChapter names target = lib.applicationChapter names target := by
  have delegates : (lib.bare.events.map fun event =>
      Declaration.delegate (lib.bare.handlerDelegate (.application target) event)) =
      lib.events.map fun event =>
        Declaration.delegate (lib.handlerDelegate (.application target) event) :=
    map_bare_eq lib.events fun event => congrArg Declaration.delegate
      (lib.delegateOf_application_bare target event.handler.name event.handler)
  have noEvents : lib.bare.events.isEmpty = lib.events.isEmpty := List.isEmpty_map
  rw [applicationChapter, applicationChapter, functionsClass_bare, eventsClass_bare, delegates,
    noEvents, enumDecl_bare, recordDecls_application_bare]
  rfl

/-! ### Functions -/

theorem paramsOfKind_bare (f : Function) (kind : Kind) (written : Bool) :
    lib.bare.paramsOfKind f.bare kind written =
      (lib.paramsOfKind f kind written).map Param.bare := by
  rw [paramsOfKind, paramsOfKind, Function.bare, List.filter_map]
  simp only [Function.comp_def, kindOf_bare]
  rfl

theorem callArgument_bare (p : Param) : lib.bare.callArgument p.bare = lib.callArgument p := by
  rw [callArgument, callArgument, kindOf_bare]
  rfl

theorem temporaries_bare (f : Function) :
    lib.bare.temporaries target f.bare = lib.temporaries target f := by
  have ofHandle : ∀ p : Param,
      lib.bare.handleTemporary target p.bare = lib.handleTemporary target p := by
    intro p
    rw [handleTemporary, handleTemporary, nativeType, nativeType, typeName_bare]
    rfl
  have ofStruct : ∀ p : Param,
      lib.bare.structTemporary target p.bare = lib.structTemporary target p := by
    intro p
    rw [structTemporary, structTemporary, nativeType, nativeType, typeName_bare]
    rfl
  have ofClass : ∀ p : Param,
      lib.bare.classTemporary target p.bare = lib.classTemporary target p := by
    intro p
    rw [classTemporary, classTemporary, nativeType, nativeType, typeName_bare]
    rfl
  simp only [temporaries, buckets, paramsOfKind_bare, List.map_map, Function.comp_def, ofHandle,
    ofStruct, ofClass]

theorem entryCall_bare (f : Function) : lib.bare.entryCall f.bare = lib.entryCall f := by
  have args : f.bare.params.map lib.bare.callArgument = f.params.map lib.callArgument :=
    map_bare_eq f.params lib.callArgument_bare
  rw [entryCall, entryCall, args]
  rfl

theorem keepAlives_bare (f : Function) : lib.bare.keepAlives f.bare = lib.keepAlives f := by
  simp only [keepAlives, buckets, paramsOfKind_bare, List.map_map]
  rfl

theorem writeBacks_bare (f : Function) :
    lib.bare.writeBacks target f.bare = lib.writeBacks target f := by
  have ofClass : ∀ p : Param,
      lib.bare.classWriteBack target p.bare = lib.classWriteBack target p := by
    intro p
    rw [classWriteBack, classWriteBack, typeName_bare]
    rfl
  simp only [writeBacks, buckets, paramsOfKind_bare, ← List.map_append, List.map_map,
    List.flatMap_map, ofClass]
  rfl

/-- The body of a function is the same without annotations. -/
theorem implementation_bare (f : Function) :
    lib.bare.implementation target f.bare = lib.implementation target f := by
  have returned : lib.bare.returnSteps f.bare = lib.returnSteps f := by
    rw [returnSteps, returnSteps, kindOf_bare]
    rfl
  have named : f.bare.name = f.name := rfl
  rw [implementation, implementation, implementationSteps, implementationSteps, temporaries_bare,
    entryCall_bare, keepAlives_bare, writeBacks_bare, returned, named, signature_application_bare]

/-! ### Conversions -/

/-- The statements that copy a value are the same without annotations. -/
theorem copyValue_bare (rule : CopyRule) (source dest : Expr) (count : Option Expr)
    (type : TypeRef) :
    lib.bare.copyValue rule source dest count type = lib.copyValue rule source dest count type := by
  induction type generalizing rule source dest count with
  | named name =>
    rw [copyValue, copyValue, kindOfName_bare, fillClass, fillClass, typeName_bare]
  | array element bound ih => rw [copyValue, copyValue, ih, typeName_bare]

theorem conversionRoutines_bare (isClass : Bool) (record : Record) :
    lib.bare.conversionRoutines target isClass record.bare =
      lib.conversionRoutines target isClass record := by
  have allocating : ∀ conversion, lib.bare.allocatingRoutine target conversion isClass record.bare =
      lib.allocatingRoutine target conversion isClass record := by
    intro conversion
    simp only [allocatingRoutine, typeName_bare]
    rfl
  have copied : ∀ conversion, record.bare.fields.map (lib.bare.copyField target conversion) =
      record.fields.map (lib.copyField target conversion) := fun conversion =>
    map_bare_eq record.fields fun field => lib.copyValue_bare _ _ _ _ _
  have copying : ∀ conversion, lib.bare.copyRoutine target conversion isClass record.bare =
      lib.copyRoutine target conversion isClass record := by
    intro conversion
    simp only [copyRoutine, typeName_bare, copied]
    rfl
  rw [conversionRoutines, conversionRoutines, allocating, allocating, copying, copying]

/-- The class of functions has no annotations: neither its headers nor its bodies. -/
theorem nativeFunctionsClass_bare :
    lib.bare.nativeFunctionsClass names target = lib.nativeFunctionsClass names target := by
  have implementations : lib.bare.functions.map (lib.bare.implementation target) =
      lib.functions.map (lib.implementation target) :=
    map_bare_eq lib.functions (lib.implementation_bare target)
  have structs : lib.bare.structs.flatMap (lib.bare.conversionRoutines target false) =
      lib.structs.flatMap (lib.conversionRoutines target false) :=
    flatMap_bare_eq lib.structs (lib.conversionRoutines_bare target false)
  have classes : lib.bare.classes.flatMap (lib.bare.conversionRoutines target true) =
      lib.classes.flatMap (lib.conversionRoutines target true) :=
    flatMap_bare_eq lib.classes (lib.conversionRoutines_bare target true)
  rw [nativeFunctionsClass, nativeFunctionsClass, implementations, structs, classes]

/-! ### Events -/

theorem raiser_bare (event : Event) :
    lib.bare.raiser mode event.bare = (lib.raiser mode event).bare := by
  have args : event.bare.handler.params.map (fun p => Expr.name p.name) =
      event.handler.params.map fun p => Expr.name p.name :=
    map_bare_eq event.handler.params fun _ => rfl
  have params : lib.bare.parameters mode event.bare.handler =
      (lib.parameters mode event.handler).map Parameter.bare :=
    lib.parameters_bare mode event.handler
  rw [raiser, raiser, args, params]
  rfl

theorem raiser_application_bare (event : Event) :
    lib.bare.raiser (.application target) event.bare = lib.raiser (.application target) event := by
  rw [raiser_bare, raiser, Member.bare, Signature.bare, bare_parameters_application]

theorem forwarder_bare (event : Event) :
    lib.bare.forwarder target event.bare = (lib.forwarder target event).bare := by
  have argument : ∀ p : Param, lib.bare.forwardedArgument p.bare = lib.forwardedArgument p := by
    intro p
    rw [forwardedArgument, forwardedArgument, kindOf_bare]
    rfl
  have args : event.bare.handler.params.map lib.bare.forwardedArgument =
      event.handler.params.map lib.forwardedArgument :=
    map_bare_eq event.handler.params argument
  have params : lib.bare.parameters (.native target) event.bare.handler =
      (lib.parameters (.native target) event.handler).map Parameter.bare :=
    lib.parameters_bare (.native target) event.handler
  rw [forwarder, forwarder, args, params]
  rfl

theorem detachRoutine_bare : lib.bare.detachRoutine = lib.detachRoutine := by
  rw [detachRoutine, detachRoutine, events_bare, List.flatMap_map]
  rfl

/-! ### Native classes -/

theorem entryPointsClass_bare :
    lib.bare.entryPointsClass names target =
      (lib.entryPointsClass names target).bareAt Member.declaresDelegate := by
  have delegates : lib.bare.entryPointDelegates names target =
      (lib.entryPointDelegates names target).map Delegate.bare := by
    have functions : (lib.bare.functions.map fun f =>
        lib.bare.delegateOf (.native target) (pointerName f.name) f) =
        (lib.functions.map fun f =>
          lib.delegateOf (.native target) (pointerName f.name) f).map Delegate.bare :=
      map_bare_map lib.functions fun f => lib.delegateOf_bare target (pointerName f.name) f
    have events : lib.bare.events.map (registrationDelegate names target) =
        (lib.events.map (registrationDelegate names target)).map Delegate.bare :=
      map_bare_map lib.events fun _ => rfl
    rw [entryPointDelegates, entryPointDelegates, functions, events, List.map_append]
  rw [entryPointsClass, entryPointsClass, TypeDecl.bareAt, delegates, entryPointNames_bare]
  simp only [List.map_cons, List.map_nil, Section.map_regionOf, Section.map_blank, List.map_map]
  rfl

theorem nativeEventsClass_bare :
    lib.bare.nativeEventsClass names target =
      (lib.nativeEventsClass names target).bareAt Member.declaresSignature := by
  have delegates : (lib.bare.events.map fun event =>
      Member.delegate (lib.bare.handlerDelegate (.native target) event)) =
      (lib.events.map fun event =>
        Member.delegate (lib.handlerDelegate (.native target) event)).map
          (Member.bareIf Member.declaresSignature) :=
    map_bare_map lib.events fun event => congrArg Member.delegate
      (lib.delegateOf_bare target event.handler.name event.handler)
  have fields : lib.bare.events.flatMap Event.nativeFields =
      (lib.events.flatMap Event.nativeFields).map (Member.bareIf Member.declaresSignature) := by
    rw [events_bare, List.flatMap_map, List.map_flatMap]
    rfl
  have events : (lib.bare.events.map fun event => event.member "public" event.nativeAccessors) =
      (lib.events.map fun event => event.member "public" event.nativeAccessors).map
        (Member.bareIf Member.declaresSignature) :=
    map_bare_map lib.events fun _ => rfl
  have raisers : lib.bare.events.map (lib.bare.raiser (.native target)) =
      (lib.events.map (lib.raiser (.native target))).map
        (Member.bareIf Member.declaresSignature) :=
    map_bare_map lib.events (lib.raiser_bare (.native target))
  have sections : ∀ className type, (Collaborator.entryPoints.sections className type).map
      (Section.map (Member.bareIf Member.declaresSignature)) =
        Collaborator.entryPoints.sections className type := fun _ _ => rfl
  rw [nativeEventsClass, nativeEventsClass, TypeDecl.bareAt, nativeEventSections,
    nativeEventSections, delegates, fields, events, raisers]
  simp only [List.map_append, List.map_cons, List.map_nil, Section.map_regionOf, Section.map_blank,
    sections]

theorem forwarderClass_bare :
    lib.bare.forwarderClass names target =
      (lib.forwarderClass names target).bareAt Member.isForwarding := by
  have fields : lib.bare.events.flatMap Event.forwardingFields =
      (lib.events.flatMap Event.forwardingFields).map (Member.bareIf Member.isForwarding) := by
    rw [events_bare, List.flatMap_map, List.map_flatMap]
    rfl
  have events : (lib.bare.events.map fun event =>
      event.member "public override" event.forwardingAccessors) =
      (lib.events.map fun event => event.member "public override" event.forwardingAccessors).map
        (Member.bareIf Member.isForwarding) :=
    map_bare_map lib.events fun _ => rfl
  have raisers : lib.bare.events.map (lib.bare.raiser (.application target)) =
      (lib.events.map (lib.raiser (.application target))).map
        (Member.bareIf Member.isForwarding) := by
    refine map_bare_map lib.events fun event => (lib.raiser_application_bare target event).trans ?_
    have isNone : (lib.raiser (.application target) event).isForwarding = false := by
      simp [raiser, Member.isForwarding, Event.raiserName, List.isPrefixOf]
    exact (Member.bareIf_of_false isNone).symm
  have forwarders : lib.bare.events.map (lib.bare.forwarder target) =
      (lib.events.map (lib.forwarder target)).map (Member.bareIf Member.isForwarding) := by
    refine map_bare_map lib.events fun event => (lib.forwarder_bare target event).trans ?_
    have isOne : (lib.forwarder target event).isForwarding = true := by
      simp [forwarder, Member.isForwarding, Event.forwarderName, List.isPrefixOf]
    exact (Member.bareIf_of_true isOne).symm
  have sections : ∀ className type, (Collaborator.nativeEvents.sections className type).map
      (Section.map (Member.bareIf Member.isForwarding)) =
        Collaborator.nativeEvents.sections className type := fun _ _ => rfl
  have detach : lib.detachRoutine.bareIf Member.isForwarding = lib.detachRoutine := rfl
  have scalars : (scalarSection target false).map (Member.bareIf Member.isForwarding) =
      scalarSection target false := by
    refine Section.map_eq_self fun member isEntry => ?_
    rw [scalarSection, Section.entries_region_spaced] at isEntry
    rcases List.mem_pair.mp isEntry with rfl | rfl
    · rfl
    · have isNone : (wrapHandleRoutine target).isForwarding = false := by
        simp [wrapHandleRoutine, Member.isForwarding, Conversion.valueRoutine, List.isPrefixOf]
      exact Member.bareIf_of_false isNone
  rw [forwarderClass, forwarderClass, TypeDecl.bareAt, forwardingSections, forwardingSections,
    fields, events, raisers, forwarders, detachRoutine_bare]
  simp only [List.map_append, List.map_cons, List.map_nil, Section.map_regionOf, Section.map_blank,
    Section.map_entry, sections, detach, scalars]
  rfl

/-! ### Native surfaces -/

theorem bareAt_of_false (decl : TypeDecl) : decl.bareAt (fun _ => false) = decl := by
  have body : decl.body.map (Section.map (Member.bareIf fun _ => false)) = decl.body :=
    (List.map_congr_left fun _ _ => Section.map_eq_self fun _ _ => rfl).trans (List.map_id _)
  rw [TypeDecl.bareAt, body]

/-- The names of the native classes differ in their middle. -/
theorem className_ne {stem middle other suffix : String} (apart : middle ≠ other) :
    stem ++ middle ++ suffix ≠ stem ++ other ++ suffix := fun same =>
  apart ((String.append_right_inj stem).mp ((String.append_left_inj suffix).mp same))

theorem annotated_entryPointsClass :
    annotated names target (lib.entryPointsClass names target) = Member.declaresDelegate := by
  funext member
  rw [annotated]
  exact if_pos rfl

theorem annotated_nativeEventsClass :
    annotated names target (lib.nativeEventsClass names target) = Member.declaresSignature := by
  funext member
  rw [annotated]
  exact (if_neg (className_ne (by decide))).trans (if_pos rfl)

theorem annotated_forwarderClass :
    annotated names target (lib.forwarderClass names target) = Member.isForwarding := by
  funext member
  rw [annotated]
  exact (if_neg (className_ne (by decide))).trans
    ((if_neg (className_ne (by decide))).trans (if_pos rfl))

theorem annotated_nativeFunctionsClass :
    annotated names target (lib.nativeFunctionsClass names target) = fun _ => false := by
  funext member
  rw [annotated]
  exact (if_neg (className_ne (by decide))).trans
    ((if_neg (className_ne (by decide))).trans (if_neg (className_ne (by decide))))

theorem annotated_recordDecl (isClass : Bool) (record : Record) :
    annotated names target (lib.recordDecl mode isClass record) = Member.declaresField := by
  cases isClass <;> rfl

theorem recordDecls_bare :
    (lib.bare.recordDecls (.native target)).map Declaration.type =
      ((lib.recordDecls (.native target)).map .type).map
        (Declaration.unannotated names target) := by
  have each : ∀ isClass (records : List Record),
      ((records.map Record.bare).map (lib.bare.recordDecl (.native target) isClass)).map
        Declaration.type =
        ((records.map (lib.recordDecl (.native target) isClass)).map .type).map
          (Declaration.unannotated names target) := by
    intro isClass records
    rw [List.map_map, List.map_map, List.map_map, List.map_map]
    refine List.map_congr_left fun record _ => congrArg Declaration.type ?_
    rw [annotated_recordDecl]
    exact lib.recordDecl_bare (.native target) isClass record
  rw [recordDecls, recordDecls, List.map_append, List.map_append, List.map_append]
  exact congr (congrArg _ (each false lib.structs)) (each true lib.classes)

/-- A native surface without annotations is the surface for the library without annotations. -/
theorem nativeChapter_bare :
    lib.bare.nativeChapter names target =
      (lib.nativeChapter names target).unannotated names target := by
  have entryPoints : Declaration.type (lib.bare.entryPointsClass names target) =
      (Declaration.type (lib.entryPointsClass names target)).unannotated names target := by
    rw [Declaration.unannotated, annotated_entryPointsClass, entryPointsClass_bare]
  have nativeEvents : Declaration.type (lib.bare.nativeEventsClass names target) =
      (Declaration.type (lib.nativeEventsClass names target)).unannotated names target := by
    rw [Declaration.unannotated, annotated_nativeEventsClass, nativeEventsClass_bare]
  have functions : Declaration.type (lib.bare.nativeFunctionsClass names target) =
      (Declaration.type (lib.nativeFunctionsClass names target)).unannotated names target := by
    rw [Declaration.unannotated, annotated_nativeFunctionsClass, bareAt_of_false,
      nativeFunctionsClass_bare]
  have forwarder : Declaration.type (lib.bare.forwarderClass names target) =
      (Declaration.type (lib.forwarderClass names target)).unannotated names target := by
    rw [Declaration.unannotated, annotated_forwarderClass, forwarderClass_bare]
  have records : (Item.trailed ((lib.bare.recordDecls (.native target)).map Declaration.type)).map
      Section.item = ((Item.trailed ((lib.recordDecls (.native target)).map Declaration.type)).map
        Section.item).map (Section.map (Declaration.unannotated names target)) := by
    rw [recordDecls_bare lib names, ← Item.map_trailed, List.map_map, List.map_map]
    rfl
  have body : ∀ lib : Library, (lib.nativeChapter names target).body =
      [.entry (.type (lib.entryPointsClass names target)), .blank,
        .entry (.type (lib.nativeEventsClass names target)), .blank] ++
        (Item.trailed ((lib.recordDecls (.native target)).map .type)).map .item ++
        [.entry (.type (lib.nativeFunctionsClass names target)), .blank,
          .entry (.type (lib.forwarderClass names target))] := fun _ => rfl
  have bodies : (lib.bare.nativeChapter names target).body =
      (lib.nativeChapter names target).body.map
        (Section.map (Declaration.unannotated names target)) := by
    rw [body, body, entryPoints, nativeEvents, functions, forwarder, records]
    simp only [List.map_append, List.map_cons, List.map_nil, Section.map_entry, Section.map_blank]
  exact congrArg (Chapter.mk _) bodies

/-! ### Files -/

/-- Two files are the same above the namespace and on the application surface, and each of their
native surfaces is the same without annotations. -/
structure SameButAnnotations (names : ClassNames) (file other : SourceFile) : Prop where
  header : file.headerCode = other.headerCode
  namespaceName : file.namespaceName = other.namespaceName
  application : ∃ chapter, file.chapters.head? = some chapter ∧ other.chapters.head? = some chapter
  native : List.Forall₂
    (fun chapter otherChapter => ∃ target,
      chapter.unannotated names target = otherChapter.unannotated names target)
    file.chapters.tail other.chapters.tail

/-- Two libraries that differ in annotations only have the same defects and the same classes of
functions, and files that differ in annotations of native surfaces only. -/
theorem annotations_confined {lib other : Library} (same : lib.bare = other.bare)
    (output : OutputDecl) (aliases : List AliasDecl) :
    lib.defects = other.defects ∧
      (∀ target, lib.nativeFunctionsClass ⟨output.library⟩ target =
        other.nativeFunctionsClass ⟨output.library⟩ target) ∧
      Option.Rel (SameButAnnotations ⟨output.library⟩) (lib.sourceFile? output aliases)
        (other.sourceFile? output aliases) := by
  refine ⟨?_, fun target => ?_, ?_⟩
  · rw [← defects_bare lib, same, defects_bare]
  · rw [← nativeFunctionsClass_bare lib, same, nativeFunctionsClass_bare]
  have application : ∀ target, lib.applicationChapter ⟨output.library⟩ target =
      other.applicationChapter ⟨output.library⟩ target := fun target => by
    rw [← applicationChapter_bare lib, same, applicationChapter_bare]
  have native : ∀ target,
      (lib.nativeChapter ⟨output.library⟩ target).unannotated ⟨output.library⟩ target =
        (other.nativeChapter ⟨output.library⟩ target).unannotated ⟨output.library⟩ target :=
    fun target => by rw [← nativeChapter_bare, same, nativeChapter_bare]
  rw [sourceFile?, sourceFile?]
  cases distinctTargets output.targets with
  | nil => exact .none
  | cons first others =>
    refine .some ⟨rfl, rfl, ⟨_, rfl, congrArg some (application first).symm⟩, ?_⟩
    rw [List.tail_cons, List.tail_cons, List.forall₂_map_left_iff, List.forall₂_map_right_iff,
      List.forall₂_same]
    exact fun target _ => ⟨target, native target⟩

end Library

/-! ### Two descriptions of one library -/

namespace Sample

/-- A library whose texts have an annotation wherever there may be one. -/
def described (marshal : Option Marshal) : Library :=
  { Library.empty with
    functions :=
      [⟨"GetLabel", .named "bool",
        [⟨"vmid", .named "int", .input, none⟩, ⟨"source", .named handleType, .input, none⟩,
          ⟨"label", .named "StringBuilder", .buffer, marshal⟩,
          ⟨"info", .named "LabelInfo", .output, none⟩], marshal⟩]
    events :=
      [⟨"LabelChanged", ⟨"LabelChangedEventHandler", .named "void",
        [⟨"vmid", .named "int", .input, none⟩, ⟨"text", .named "string", .input, marshal⟩], none⟩⟩]
    structs :=
      [⟨"LabelInfo", [⟨"text", .named "string", marshal⟩,
        ⟨"lengths", .array (.named "int") none, marshal⟩]⟩] }

/-- Every text in place and at most 256 characters long. -/
def inPlace : Library := described (some ⟨"ByValTStr", some 256, none⟩)

/-- A file for the library of labels, with both targets. -/
def labelOutput : OutputDecl :=
  { namespaceName := "Labels", library := "Label", file := "Label.cs", license := none
    usings := []
    targets := [.modern, .legacy] }

theorem inPlace_confined :
    inPlace.bare = (described none).bare ∧ inPlace.defects = (described none).defects ∧
      (∀ target, inPlace.nativeFunctionsClass ⟨"Label"⟩ target =
        (described none).nativeFunctionsClass ⟨"Label"⟩ target) ∧
      Option.Rel (Library.SameButAnnotations ⟨"Label"⟩) (inPlace.sourceFile? labelOutput [])
        ((described none).sourceFile? labelOutput []) := by
  have same : inPlace.bare = (described none).bare := rfl
  exact ⟨same, Library.annotations_confined same labelOutput []⟩

end Sample

end InteropGlue
