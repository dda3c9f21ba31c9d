import InteropGlue.Library.OfSchema
import InteropGlue.Proofs.Glue.ApplicationSurface
import InteropGlue.Proofs.Glue.FunctionTyping
/-!
# Forwarding of events is well typed

On its way to the handlers of the application, a native callback passes five declared signatures: it
is registered as the delegate of an entry point, runs a raiser, then a forwarding method, then
another raiser, and ends at a handler of the type that the application declares. Two facts make
these fit.

* **Callbacks carry values that one call converts.** The check of a library lets parameters through
  that are only read and are neither records nor arrays, so a handle and a boolean are all that is
  ever converted, and a forwarder needs no other conversions than these two.
* **Names find what is meant.** No two methods of a class share a name, as no two events do.

## Main Definitions

* `Library.forwardingSurroundings` — the classes around the body of a forwarding method.
* `Library.PassedOn` — the form in which a parameter is passed on.
* `Library.OwnNames` — methods and delegate types that have names of their own.
* `Library.Attached`, `Library.PassesOn`, `Library.CalledBack` — the native event with its
  forwarding method, the call that it makes, and the callback behind the native event.

## Main Results

* `Library.names_nativeEventsClass_nodup`, `Library.names_forwarderClass_nodup` — methods have names
  of their own.
* `Library.forwardedArgument_fits` — an argument has the type that the raiser declares.
* `Library.forwarding_wellTyped` — all signatures of an event of an accepted library fit.
* `Schema.callbacks_shaped` — the callbacks of a schema have the shape that this asks for.

## Design Notes

A delegate type is declared under the name of the handler of an event. These names are told apart
where each of them is made from the name of its event; nothing else in this file needs them to be.
-/

namespace InteropGlue

open CSharp

/-! ### Names of members -/

/-- The delegate type that a member declares. -/
def CSharp.Member.delegate? : Member → Option Delegate
  | .delegate declared => some declared
  | _ => none

/-- The names of the delegate types of a type. -/
def CSharp.TypeDecl.delegateNames (decl : TypeDecl) : List String :=
  (decl.members.filterMap Member.delegate?).map (·.signature.name)

/-- The names of the methods of a type. -/
def CSharp.TypeDecl.methodNames (decl : TypeDecl) : List String := decl.methods.map (·.name)

/-- The delegate type that a declaration declares. -/
def CSharp.Declaration.delegate? : Declaration → Option Delegate
  | .delegate declared => some declared
  | .type _ => none

/-- The names of the delegate types of a chapter. -/
def CSharp.Chapter.delegateNames (chapter : Chapter) : List String :=
  (chapter.declarations.filterMap Declaration.delegate?).map (·.signature.name)

namespace Library

variable (lib : Library) (names : ClassNames) (target : Target)

/-- The methods of the native events class are its raisers. -/
theorem methods_nativeEventsClass :
    (lib.nativeEventsClass names target).methods =
      lib.events.map fun event =>
        ⟨"void", event.raiserName, lib.parameters (.native target) event.handler⟩ := by
  rw [TypeDecl.methods, List.filterMap_eq_flatMap_toList, flatMap_members_nativeEventsClass,
    List.map_eq_flatMap]
  change [] ++ (lib.events.flatMap fun _ => []) ++ (lib.events.flatMap fun _ => []) ++
    (lib.events.flatMap fun _ => []) ++ lib.events.flatMap _ = _
  simp only [flatMap_const_nil, List.nil_append]
  rfl

/-- The methods of the forwarder are raisers, forwarding methods, two that end its use, and two
conversions. -/
theorem methods_forwarderClass :
    (lib.forwarderClass names target).methods =
      (lib.events.map fun event =>
        ⟨"void", event.raiserName, lib.parameters (.application target) event.handler⟩) ++
        (lib.events.map fun event =>
          ⟨"void", event.forwarderName, lib.parameters (.native target) event.handler⟩) ++
        [⟨"void", "DetachForwarders", []⟩, disposeSignature] ++
        (scalarConversions target false).filterMap Member.signature? := by
  rw [TypeDecl.methods, List.filterMap_eq_flatMap_toList, flatMap_members_forwarderClass,
    List.map_eq_flatMap, List.map_eq_flatMap, List.filterMap_eq_flatMap_toList]
  change [] ++ (lib.events.flatMap fun _ => []) ++ (lib.events.flatMap fun _ => []) ++
    lib.events.flatMap _ ++ lib.events.flatMap _ ++ [_] ++ [_] ++ _ = _
  simp only [flatMap_const_nil, List.nil_append, List.append_assoc, List.singleton_append]
  rfl

/-- The delegate types of the native events class are those of the handlers. -/
theorem delegates_nativeEventsClass :
    (lib.nativeEventsClass names target).members.filterMap Member.delegate? =
      lib.events.map (lib.handlerDelegate (.native target)) := by
  rw [List.filterMap_eq_flatMap_toList, flatMap_members_nativeEventsClass, List.map_eq_flatMap]
  change [] ++ lib.events.flatMap _ ++ (lib.events.flatMap fun _ => []) ++
    (lib.events.flatMap fun _ => []) ++ (lib.events.flatMap fun _ => []) = _
  simp only [flatMap_const_nil, List.nil_append, List.append_nil]
  rfl

/-- The delegate types of the application surface are those of the handlers. -/
theorem delegates_applicationChapter :
    (lib.applicationChapter names target).declarations.filterMap Declaration.delegate? =
      lib.events.map (lib.handlerDelegate (.application target)) := by
  rw [declarations_applicationChapter, List.filterMap_eq_flatMap_toList, List.flatMap_append,
    List.flatMap_append, List.flatMap_map, List.flatMap_map]
  change [] ++ lib.events.flatMap _ ++ (List.flatMap (fun _ => []) _) = _
  rw [flatMap_const_nil, List.nil_append, List.append_nil]
  exact List.map_eq_flatMap.symm

/-- Events of an accepted library have names of their own: so do their registrations. -/
theorem eventNames_nodup {lib : Library} (accepted : lib.Accepted) :
    (lib.events.map (·.name)).Nodup := by
  have registrations : (lib.events.map Event.registration).Nodup :=
    (List.nodup_append.mp accepted.sound.entryPointNames_nodup).2.1
  have named : lib.events.map Event.registration = (lib.events.map (·.name)).map ("Set" ++ ·) := by
    rw [List.map_map]
    rfl
  rw [named] at registrations
  exact registrations.of_map _

/-- Names that are made of the names of events are as distinct as these. -/
theorem made_nodup {name : Event → String} {make : String → String}
    (injective : Function.Injective make)
    (made : ∀ event ∈ lib.events, name event = make event.name)
    (distinct : (lib.events.map (·.name)).Nodup) : (lib.events.map name).Nodup := by
  have mapped : lib.events.map name = (lib.events.map (·.name)).map make := by
    rw [List.map_map]
    exact List.map_congr_left made
  rw [mapped]
  exact distinct.map injective

theorem raiserNames_nodup (distinct : (lib.events.map (·.name)).Nodup) :
    (lib.events.map Event.raiserName).Nodup :=
  lib.made_nodup (fun _ _ => (String.append_right_inj "On").mp) (fun _ _ => rfl) distinct

theorem forwarderNames_nodup (distinct : (lib.events.map (·.name)).Nodup) :
    (lib.events.map Event.forwarderName).Nodup :=
  lib.made_nodup (fun _ _ => (String.append_right_inj "Forward").mp) (fun _ _ => rfl) distinct

/-- No two methods of the native events class share a name. -/
theorem names_nativeEventsClass_nodup (distinct : (lib.events.map (·.name)).Nodup) :
    (lib.nativeEventsClass names target).methodNames.Nodup := by
  rw [TypeDecl.methodNames, methods_nativeEventsClass, List.map_map]
  exact lib.raiserNames_nodup distinct

/-- No two methods of the forwarder share a name. -/
theorem names_forwarderClass_nodup (distinct : (lib.events.map (·.name)).Nodup) :
    (lib.forwarderClass names target).methodNames.Nodup := by
  have raiser : ∀ event : Event, event.raiserName.toList.head? = some 'O' := by
    simp [Event.raiserName]
  have forwarder : ∀ event : Event, event.forwarderName.toList.head? = some 'F' := by
    simp [Event.forwarderName]
  have methodNames : (lib.forwarderClass names target).methodNames =
      lib.events.map Event.raiserName ++ lib.events.map Event.forwarderName ++
        ["DetachForwarders", "Dispose", "ToBool", "Wrap"] := by
    rw [TypeDecl.methodNames, methods_forwarderClass, List.map_append, List.map_append,
      List.map_append, List.map_map, List.map_map, List.append_assoc]
    rfl
  -- The first letter tells a raiser, a forwarding method and any other method apart.
  rw [methodNames, List.nodup_append, List.nodup_append]
  refine ⟨⟨lib.raiserNames_nodup distinct, lib.forwarderNames_nodup distinct, ?_⟩, by decide, ?_⟩
  · rintro name isRaiser other isForwarder rfl
    obtain ⟨event, -, rfl⟩ := List.mem_map.mp isRaiser
    obtain ⟨next, -, same⟩ := List.mem_map.mp isForwarder
    have letter := raiser event
    rw [← same, forwarder next] at letter
    exact absurd letter (by decide)
  · rintro name isOfEvent other isOther rfl
    rcases List.mem_append.mp isOfEvent with isOf | isOf <;>
      obtain ⟨event, -, rfl⟩ := List.mem_map.mp isOf
    · have others : ∀ name ∈ ["DetachForwarders", "Dispose", "ToBool", "Wrap"],
          name.toList.head? ≠ some 'O' := by decide
      exact others _ isOther (raiser event)
    · have others : ∀ name ∈ ["DetachForwarders", "Dispose", "ToBool", "Wrap"],
          name.toList.head? ≠ some 'F' := by decide
      exact others _ isOther (forwarder event)

/-! ### Arguments that are passed on -/

/-- The classes around the body of a forwarding method. Its conversions are those of booleans and of
handles, towards the application. -/
def forwardingSurroundings : Surroundings :=
  { own := lib.forwarderClass names target
    conversions := (scalarConversions target false).filterMap Member.signature?
    entryPoints := lib.entryPointsClass names target
    records := [] }

/-- The form in which a parameter is passed on: a handle with the key, which is an `int`, a boolean
converted, and anything else as it is, with one spelling on both surfaces. -/
inductive PassedOn (params : List Parameter) (p : Param) : Expr → Prop
  | handle (kind : lib.kindOf p.type = .handle)
      (keyed : ∃ key, params.find? (·.name == "vmid") = some key ∧ key.type = "int") :
      PassedOn params p (.callOwn "Wrap" [.name "vmid", .name p.name])
  | bool (kind : lib.kindOf p.type = .bool) :
      PassedOn params p (.callOwn "ToBool" [.name p.name])
  | same (notHandle : lib.kindOf p.type ≠ .handle) (notBool : lib.kindOf p.type ≠ .bool)
      (spelled : lib.typeName (.native target) p.type = lib.typeName (.application target) p.type) :
      PassedOn params p (.name p.name)

variable {lib names target}

/-- A conversion of the forwarder gives what it returns. -/
theorem hasType_scalarConversion {scope : Scope} {routine : Member} {signature : Signature}
    {args : List Arg} (listed : routine ∈ scalarConversions target false)
    (declares : routine.signature? = some signature)
    (fit : Fits (lib.forwardingSurroundings names target) scope args signature.params) :
    HasType (lib.forwardingSurroundings names target) scope (.call (.name signature.name) args)
      signature.returns := by
  refine .conversion (List.mem_filterMap.mpr ⟨routine, listed, declares⟩) ?_ fit
  have isMember : routine ∈ (lib.forwarderClass names target).members := by
    rw [members_forwarderClass]
    exact List.mem_append_right _ listed
  exact List.mem_filterMap.mpr ⟨routine, isMember, declares⟩

/-- A callback that has a handle has the key, as an `int`. -/
theorem keyed_of_handle {f : Function} {p : Param} (keyed : lib.Keyed f) (isParam : p ∈ f.params)
    (kind : lib.kindOf p.type = .handle) :
    ∃ key, (lib.parameters (.native target) f).find? (·.name == "vmid") = some key ∧
      key.type = "int" := by
  have crossing : lib.Crossing p.type := .inl kind
  obtain ⟨key, found, isInt⟩ := keyed (.inr ⟨p, isParam, crossing.converted⟩)
  refine ⟨lib.parameter (.native target) key, ?_, ?_⟩
  · rw [parameters, List.find?_map]
    exact congrArg (Option.map _) found
  · have isInteger : "int" ∈ integerPrimitives := by decide
    change lib.typeName (.native target) key.type = "int"
    rw [isInt, typeName_native_integer target isInteger]

/-- What a callback passes on for a parameter has the form of its type. -/
theorem forwardedArgument_passedOn {f : Function} {p : Param} (keyed : lib.Keyed f)
    (isParam : p ∈ f.params) (forwardable : lib.Forwardable p) :
    lib.PassedOn target (lib.parameters (.native target) f) p (lib.forwardedArgument p) := by
  obtain ⟨-, notStruct, notClass, notArray⟩ := forwardable
  rw [forwardedArgument]
  split
  · rename_i kind
    exact .handle kind (keyed_of_handle keyed isParam kind)
  · rename_i kind
    exact .bool kind
  · rename_i notHandle notBool
    have notCrossing : ¬ lib.Crossing p.type := by
      rintro (kind | kind | kind)
      · exact notHandle kind
      · exact notStruct kind
      · exact notClass kind
    have plain : lib.PlainArray p.type :=
      plainArray_of_kind (fun isArray => absurd isArray notArray) notCrossing notBool
    exact .same notHandle notBool (typeName_eq_of_plain plain _ _)

/-- The argument for a parameter has the keyword and the type that the raiser of the application
declares. -/
theorem forwardedArgument_fits {f : Function} {p : Param} (keyed : lib.Keyed f)
    (isParam : p ∈ f.params) (forwardable : lib.Forwardable p) :
    Fits (lib.forwardingSurroundings names target)
      ((lib.parameters (.native target) f).map fun p => (p.name, p.type))
      [.value (lib.forwardedArgument p)] [lib.parameter (.application target) p] := by
  have byValue : Passing.byValue = (lib.parameter (.application target) p).passing := by
    rw [parameter, forwardable.1]
    rfl
  have inScope : ∀ parameter ∈ lib.parameters (.native target) f, (parameter.name, parameter.type) ∈
      (lib.parameters (.native target) f).map fun p => (p.name, p.type) :=
    fun _ declared => List.mem_map_of_mem declared
  have declared := inScope _ (List.mem_map_of_mem isParam)
  refine .cons byValue ?_ .nil
  have passed := @forwardedArgument_passedOn lib target f p keyed isParam forwardable
  generalize lib.forwardedArgument p = argument at passed
  cases passed with
  | handle kind found =>
    obtain ⟨key, found, isInt⟩ := found
    have isKey : key.name = "vmid" := by simpa using List.find?_some found
    have machine := inScope key (List.mem_of_find?_eq_some found)
    obtain ⟨name, isNamed⟩ := Crossing.exists_named (.inl kind)
    rw [isNamed] at kind
    obtain rfl := kindOfName_eq_handle_iff.mp kind
    rw [isKey, isInt] at machine
    rw [parameter, isNamed, typeName_native_handle target kind] at declared
    rw [parameter, isNamed]
    exact hasType_scalarConversion (List.mem_cons_of_mem _ List.mem_cons_self) rfl
      (.cons rfl (.variable machine) (.cons rfl (.variable declared) .nil))
  | bool kind =>
    have isBool := kindOf_eq_bool_iff.mp kind
    rw [parameter, isBool, typeName_native_bool] at declared
    rw [parameter, isBool]
    exact hasType_scalarConversion List.mem_cons_self rfl (.cons rfl (.variable declared) .nil)
  | same notHandle notBool spelled =>
    rw [parameter] at declared ⊢
    rw [← spelled]
    exact .variable declared

/-! ### The signatures of an event -/

/-- An event has one registration, which takes the callback. -/
theorem mem_delegates_registration_iff (accepted : lib.Accepted) {event : Event}
    (isEvent : event ∈ lib.events) (declared : Delegate) :
    .delegate declared ∈ (lib.entryPointsClass names target).members ∧
        declared.signature.name = pointerName event.registration ↔
      declared = registrationDelegate names target event := by
  have distinct := accepted.sound.entryPointNames_nodup
  simp only [entryPointNames, List.nodup_append] at distinct
  obtain ⟨-, registrationsDistinct, apart⟩ := distinct
  constructor
  · rintro ⟨isMember, isNamed⟩
    obtain ⟨delegate, isEntry, same⟩ :=
      (mem_entryPointsClass_members.mp isMember).resolve_right (by simp)
    obtain rfl := Member.delegate.inj same
    rcases List.mem_append.mp isEntry with ofFunction | ofEvent
    · obtain ⟨f, isFunction, rfl⟩ := List.mem_map.mp ofFunction
      exact absurd (pointerName_injective isNamed)
        (apart _ (List.mem_map_of_mem isFunction) _ (List.mem_map_of_mem isEvent))
    · obtain ⟨other, isOther, rfl⟩ := List.mem_map.mp ofEvent
      obtain rfl := List.inj_on_of_nodup_map registrationsDistinct isOther isEvent
        (pointerName_injective isNamed)
      rfl
  · rintro rfl
    have listed : registrationDelegate names target event ∈ lib.entryPointDelegates names target :=
      List.mem_append_right _ (List.mem_map_of_mem isEvent)
    exact ⟨mem_entryPointsClass_members.mpr (.inl ⟨_, listed, rfl⟩), rfl⟩

variable (lib names target)

/-- Methods have names of their own, and so do delegate types that are named after their events. -/
structure OwnNames : Prop where
  forwarder : (lib.forwarderClass names target).methodNames.Nodup
  nativeEvents : (lib.nativeEventsClass names target).methodNames.Nodup
  handlers : (∀ event ∈ lib.events, event.handler.name = event.name ++ "EventHandler") →
    (lib.nativeEventsClass names target).delegateNames.Nodup ∧
      (lib.applicationChapter names target).delegateNames.Nodup

theorem ownNames {lib : Library} (accepted : lib.Accepted) (names : ClassNames) (target : Target) :
    lib.OwnNames names target where
  forwarder := lib.names_forwarderClass_nodup names target (eventNames_nodup accepted)
  nativeEvents := lib.names_nativeEventsClass_nodup names target (eventNames_nodup accepted)
  handlers named := by
    rw [TypeDecl.delegateNames, delegates_nativeEventsClass, Chapter.delegateNames,
      delegates_applicationChapter, List.map_map, List.map_map]
    have distinct : (lib.events.map (·.handler.name)).Nodup :=
      lib.made_nodup (fun _ _ => (String.append_left_inj "EventHandler").mp) named
        (eventNames_nodup accepted)
    exact ⟨distinct, distinct⟩

section Event

variable (event : Event) (handler shown : Delegate) (args : List Expr)

/-- A native event takes handlers of a delegate type, and the forwarder attaches its method to
it. -/
structure Attached : Prop where
  declared : .delegate handler ∈ (lib.nativeEventsClass names target).members
  named : handler.signature.name = event.handler.name
  returns : handler.signature.returns = "void"
  takes : ∃ add remove, .event "public" handler.signature.name event.name add remove ∈
    (lib.nativeEventsClass names target).members
  reached : ∃ value, .property (lib.nativeEventsClass names target).name "NativeEvents" value ∈
    (lib.forwarderClass names target).members
  attaches : ∃ unregister, event.member "public override"
    (accessors event
      [.attach (.member (.name "NativeEvents") event.name) (.name ("Forward" ++ event.name))]
      unregister) ∈ (lib.forwarderClass names target).members

/-- A forwarding method has the parameters of the native delegate type and calls the raiser of the
application, whose parameters are those of the delegate type of the application, with one argument
for each parameter. -/
structure PassesOn : Prop where
  declared : .method "private"
    { returns := "void", name := "Forward" ++ event.name, params := handler.signature.params }
    (.ofSteps [.evaluate (.callOwn ("On" ++ event.name) args)]) ∈
      (lib.forwarderClass names target).members
  raiser : { returns := "void", name := "On" ++ event.name, params := shown.signature.params } ∈
    (lib.forwarderClass names target).methods
  offered : ∀ other, .delegate shown ∈ (lib.applicationChapter names other).declarations
  named : shown.signature.name = event.handler.name
  returns : shown.signature.returns = "void"
  passed : List.Forall₂ (lib.PassedOn target handler.signature.params) event.handler.params args
  fit : Fits (lib.forwardingSurroundings names target)
    (handler.signature.params.map fun p => (p.name, p.type)) (args.map .value)
    shown.signature.params
  conversions : (lib.forwardingSurroundings names target).conversions =
    [⟨"bool", "ToBool", [plainParameter .byValue nativeBool "value"]⟩,
      ⟨handleType, "Wrap", [machineParameter, plainParameter .byValue target.handleName "handle"]⟩]
  emitted : (lib.forwardingSurroundings names target).conversions ⊆
    (lib.forwarderClass names target).methods

/-- The callback behind a native event is the raiser, which has the parameters of the delegate type
that the only registration of the event takes. -/
structure CalledBack : Prop where
  raiser : { returns := "void", name := "On" ++ event.name, params := handler.signature.params } ∈
    (lib.nativeEventsClass names target).methods
  field : .field [] "private" handler.signature.name event.callbackName none ∈
    (lib.nativeEventsClass names target).members
  assigns : ∃ unregister, event.member "public"
    (accessors event
      [.assign (.name event.callbackName) (.name ("On" ++ event.name)),
        .evaluate (.call (.member (.name "EntryPoints") ("Set" ++ event.name))
          [.value (.name event.callbackName)])]
      unregister) ∈ (lib.nativeEventsClass names target).members
  slot : .slot (pointerName ("Set" ++ event.name)) ("Set" ++ event.name) ∈
    (lib.entryPointsClass names target).members
  registers : ∀ declared,
    .delegate declared ∈ (lib.entryPointsClass names target).members ∧
        declared.signature.name = pointerName ("Set" ++ event.name) ↔
      declared =
        { attributes := [functionPointer]
          signature :=
            { returns := "void"
              name := pointerName ("Set" ++ event.name)
              params :=
                [plainParameter .byValue
                  ((lib.nativeEventsClass names target).name ++ "." ++ handler.signature.name)
                  "fp"] } }

end Event

variable {lib}

theorem handlerDelegate_returns (mode : Mode) {event : Event}
    (void : event.handler.returnType = .named "void") :
    (lib.handlerDelegate mode event).signature.returns = "void" := by
  change lib.typeName mode event.handler.returnType = "void"
  rw [void, typeName_void]

section Signatures

variable {event : Event} (isEvent : event ∈ lib.events)
  (void : event.handler.returnType = .named "void")

include isEvent void

theorem attached :
    lib.Attached names target event (lib.handlerDelegate (.native target) event) where
  declared := mem_nativeEventsClass_members.mpr (.inr (.inl ⟨event, isEvent, rfl⟩))
  named := rfl
  returns := handlerDelegate_returns _ void
  takes := by
    have isMember : event.member "public" event.nativeAccessors ∈
        (lib.nativeEventsClass names target).members :=
      mem_nativeEventsClass_members.mpr (.inr (.inr (.inr (.inl ⟨event, isEvent, rfl⟩))))
    exact ⟨_, _, isMember⟩
  reached := by
    refine ⟨.name Collaborator.nativeEvents.field, mem_forwarderClass_members.mpr (.inl ?_)⟩
    exact mem_collaboratorMembers.mpr (.inr (.inr rfl))
  attaches := by
    refine ⟨[event.detachForwarder], mem_forwarderClass_members.mpr (.inr (.inr (.inl ?_)))⟩
    exact ⟨event, isEvent, rfl⟩

theorem passesOn (accepted : lib.Accepted) :
    lib.PassesOn names target event (lib.handlerDelegate (.native target) event)
      (lib.handlerDelegate (.application target) event)
      (event.handler.params.map lib.forwardedArgument) := by
  have isSignature : event.handler ∈ lib.signatures :=
    List.mem_append_right _ (List.mem_map_of_mem isEvent)
  have keyed := accepted.sound.keyed event.handler isSignature
  have forwardable := accepted.sound.param_forwardable event isEvent
  exact
    { declared := mem_forwarderClass_members.mpr
        (.inr (.inr (.inr (.inr (.inl ⟨event, isEvent, rfl⟩)))))
      raiser := by
        have isMember : lib.raiser (.application target) event ∈
            (lib.forwarderClass names target).members :=
          mem_forwarderClass_members.mpr (.inr (.inr (.inr (.inl ⟨event, isEvent, rfl⟩))))
        exact List.mem_filterMap.mpr ⟨_, isMember, rfl⟩
      offered := fun other => by
        rw [applicationChapter_target lib other target, declarations_applicationChapter]
        exact List.mem_append_left _ (List.mem_append_right _ (List.mem_map_of_mem isEvent))
      named := rfl
      returns := handlerDelegate_returns _ void
      passed := by
        rw [List.forall₂_map_right_iff, List.forall₂_same]
        exact fun p isParam => forwardedArgument_passedOn keyed isParam (forwardable p isParam)
      fit := by
        rw [List.map_map]
        exact Fits.of_forall fun p isParam =>
          forwardedArgument_fits keyed isParam (forwardable p isParam)
      conversions := rfl
      emitted := List.filterMap_subset _ fun routine listed =>
        mem_forwarderClass_members.mpr (.inr (.inr (.inr (.inr (.inr (.inr (.inr listed))))))) }

omit void in
theorem calledBack (accepted : lib.Accepted) :
    lib.CalledBack names target event (lib.handlerDelegate (.native target) event) where
  raiser := by
    have isMember : lib.raiser (.native target) event ∈
        (lib.nativeEventsClass names target).members :=
      mem_nativeEventsClass_members.mpr (.inr (.inr (.inr (.inr ⟨event, isEvent, rfl⟩))))
    exact List.mem_filterMap.mpr ⟨_, isMember, rfl⟩
  field := by
    refine mem_nativeEventsClass_members.mpr (.inr (.inr (.inl ⟨event, isEvent, ?_⟩)))
    exact List.mem_cons_of_mem _ List.mem_cons_self
  assigns := by
    refine ⟨[event.setCallback .null, .assign event.callback .null],
      mem_nativeEventsClass_members.mpr (.inr (.inr (.inr (.inl ?_))))⟩
    exact ⟨event, isEvent, rfl⟩
  slot := by
    have isName : event.registration ∈ lib.entryPointNames :=
      List.mem_append_right _ (List.mem_map_of_mem isEvent)
    exact mem_entryPointsClass_members.mpr (.inr ⟨_, isName, rfl⟩)
  registers := mem_delegates_registration_iff accepted isEvent

end Signatures

/-- In an accepted library with callbacks that return nothing, all signatures that an event passes
fit: the forwarding method has the parameters of the native delegate type, each argument of its call
has the type that the application declares, and the callback is what its registration takes. -/
theorem forwarding_wellTyped (accepted : lib.Accepted)
    (void : ∀ event ∈ lib.events, event.handler.returnType = .named "void") (names : ClassNames)
    (target : Target) {event : Event} (isEvent : event ∈ lib.events) :
    lib.OwnNames names target ∧ ∃ handler shown args, lib.Attached names target event handler ∧
      lib.PassesOn names target event handler shown args ∧
      lib.CalledBack names target event handler :=
  ⟨ownNames accepted names target, _, _, _, attached names target isEvent (void event isEvent),
    passesOn names target isEvent (void event isEvent) accepted,
    calledBack names target isEvent accepted⟩

end Library

/-- The callbacks of a schema return nothing, and their delegate types are named after the
events. -/
theorem Schema.callbacks_shaped (schema : Schema) :
    ∀ event ∈ schema.toLibrary.events,
      event.handler.returnType = .named "void" ∧
        event.handler.name = event.name ++ "EventHandler" :=
  List.forall_mem_map.mpr fun _ _ => ⟨rfl, rfl⟩

/-! ### An event with every kind of parameter -/

namespace Sample

/-- An event with the key, a handle, a boolean, an annotated text and an enum. -/
def textChanged : Event :=
  { name := "TextChanged"
    handler :=
      { name := "TextChangedEventHandler"
        returnType := .named "void"
        params :=
          [⟨"vmid", .named "int", .input, none⟩, ⟨"source", .named handleType, .input, none⟩,
            ⟨"selected", .named "bool", .input, none⟩,
            ⟨"text", .named "string", .input, some ⟨"LPWStr", none, none⟩⟩,
            ⟨"role", .named "Role", .input, none⟩]
        returnMarshal := none } }

/-- A library with events, whose registrations stand beside a function. -/
def reporting : Library :=
  { Library.empty with
    functions := [⟨"IsReady", .named "bool", [], none⟩]
    events := [textChanged, { textChanged with name := "CaretMoved" }]
    enums := [⟨"Role", .named "int", false, [⟨"Label", "1"⟩]⟩] }

theorem reporting_accepted : reporting.Accepted := by cbv

theorem textChanged_wellTyped :
    reporting.Accepted ∧
      (∀ event ∈ reporting.events, event.handler.returnType = .named "void") ∧
      textChanged ∈ reporting.events ∧ reporting.OwnNames ⟨"Access"⟩ .legacy ∧
      ∃ handler shown args, reporting.Attached ⟨"Access"⟩ .legacy textChanged handler ∧
        reporting.PassesOn ⟨"Access"⟩ .legacy textChanged handler shown args ∧
        reporting.CalledBack ⟨"Access"⟩ .legacy textChanged handler := by
  have void : ∀ event ∈ reporting.events, event.handler.returnType = .named "void" := by decide
  have isEvent : textChanged ∈ reporting.events := List.mem_cons_self
  exact ⟨reporting_accepted, void, isEvent,
    Library.forwarding_wellTyped reporting_accepted void ⟨"Access"⟩ .legacy isEvent⟩

end Sample

end InteropGlue
