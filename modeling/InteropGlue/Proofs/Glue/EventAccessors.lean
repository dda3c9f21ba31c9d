import InteropGlue.Proofs.CSharp.Objects
import InteropGlue.Proofs.Glue.Members
/-!
# Accessors of events

What the accessors of the two event classes do to the objects: read off the members of the classes
once, so that no later proof runs a body.

## Main Definitions

* `subscribe?`, `unsubscribe?` — what the accessors of one layer do, given what they do to the layer
  below.
* `Party`, `Library.eventObjects` — the native object and the forwarders around it.
* `Library.MemberOf` — what the members of an object are.
* `Event.change?`, `Event.release?` — what a change of an event and the end of a forwarder do.

## Main Results

* `access_add`, `access_remove` — accessors of any layer.
* `Library.event?_eq` — the accessors of an event are found by its name.
* `Library.access_event`, `Library.invoke_dispose` — the accessors and the end of a forwarder.

## Design Notes

Two events of one name have the same accessors, so what is found by the name of an event is right
for it even where names clash. A name in a body is looked up among the variables first: private
fields start with an underscore, which no variable and no method does.
-/

namespace InteropGlue

open CSharp

/-! ### The accessors of one layer -/

section Layer

variable {Object Other : Type} {A : Assembly Object} {object : Object} {φ : Frame Object Other}

/-- A frame of an accessor: it has no variables except the value and the handlers before. -/
def CSharp.Frame.IsAccessor (φ : Frame Object Other) : Prop :=
  ∀ name, name ≠ "value" → name ≠ "previous" → φ.locals name = none

theorem isAccessor_accessorLocals {value : Reference Object Other} {w : World Object Other} :
    Frame.IsAccessor ⟨object, Assembly.accessorLocals value, w⟩ :=
  fun _ notValue _ => if_neg notValue

/-- A field of an object, as the accessors of the object name it. -/
def IsOwnField (A : Assembly Object) (object : Object) (name : String) : Prop :=
  A.hasField object name = true ∧ name.toList.head? = some '_'

/-- A field is none of the variables of an accessor. -/
theorem IsOwnField.means {name : String} (isField : IsOwnField A object name)
    (self : φ.self = object) (isAccessor : φ.IsAccessor) : φ.meansField A name = true := by
  obtain ⟨hasField, underscored⟩ := isField
  have noLocal : φ.locals name = none := by
    refine isAccessor name ?_ ?_ <;> rintro rfl <;> revert underscored <;> decide
  simp [Frame.meansField, noLocal, self, hasField]

variable [DecidableEq Object] [DecidableEq Other]

/-- A handler added to an event. `register` is what happens with the first one. -/
def subscribe? (event : Event) (object : Object)
    (register : World Object Other → Option (World Object Other)) (value : Reference Object Other)
    (w : World Object Other) : Option (World Object Other) :=
  if value = none then some w
  else do
    let w ← w.combine? object event.fieldName value
    let w := w.count object event.countName 1
    if w.numbers object event.countName = 1 then register w else some w

/-- A handler removed from an event. `unregister` is what happens with the last one. -/
def unsubscribe? (event : Event) (object : Object)
    (unregister : World Object Other → Option (World Object Other)) (value : Reference Object Other)
    (w : World Object Other) : Option (World Object Other) :=
  if value = none then some w
  else
    let less := w.remove object event.fieldName value
    if w.delegates object event.fieldName = less.delegates object event.fieldName then some less
    else
      let w := less.count object event.countName (-1)
      if w.numbers object event.countName = 0 then unregister w else some w

/-- Statements do the same to the world in each accessor of an object, and nothing else. -/
def Does (A : Assembly Object) (object : Object) (steps : List Step)
    (effect : World Object Other → Option (World Object Other)) : Prop :=
  ∀ φ : Frame Object Other, φ.self = object → φ.IsAccessor →
    A.exec φ (.ofSteps steps) = (effect φ.world).map fun w => (true, { φ with world := w })

variable {event : Event} {register unregister : List Step}
  {effect : World Object Other → Option (World Object Other)} {value : Reference Object Other}
  {w : World Object Other}

/-- The end of an accessor: statements for one number of handlers. -/
theorem exec_transition {steps : List Step} {n : Nat} (self : φ.self = object)
    (isAccessor : φ.IsAccessor) (isCount : IsOwnField A object event.countName)
    (does : Does A object steps effect) :
    (A.exec φ (.ifHolds (.compare .equal event.subscribers (.number n)) (.ofSteps steps))).map
        (·.2.world) =
      if φ.world.numbers object event.countName = n then effect φ.world else some φ.world := by
  rw [Block.ifHolds, Event.subscribers,
    Assembly.exec_guarded (Frame.test?_number (isCount.means self isAccessor)), self]
  simp only [decide_eq_true_eq]
  split
  · rw [does φ self isAccessor]
    cases effect φ.world with
    | none => rfl
    | some w =>
      simp only [Option.map_some, Option.bind_some, if_true, Assembly.exec_done]
  · rw [Assembly.exec_done, Option.map_some]

theorem access_add (found : A.event? object event.name = some (accessors event register unregister))
    (isField : IsOwnField A object event.fieldName) (isCount : IsOwnField A object event.countName)
    (registers : Does A object register effect) :
    A.access object event.name .add value w = subscribe? event object effect value w := by
  have isAccessor : ∀ w, Frame.IsAccessor ⟨object, Assembly.accessorLocals value, w⟩ :=
    fun w => isAccessor_accessorLocals
  have readsValue : Frame.read? A ⟨object, Assembly.accessorLocals value, w⟩ (.name "value") =
      some value := Frame.read?_local rfl
  rw [Assembly.access_eq found, Change.accessor, accessors, Assembly.exec_guarded
    (Frame.test?_isNull readsValue), subscribe?]
  cases value with
  | none =>
    simp only [Option.isNone_none, if_true, Assembly.exec_leave]
    rfl
  | some d =>
    simp only [Option.isNone_some, Bool.false_eq_true, if_false, reduceCtorEq]
    rw [Assembly.exec_local rfl, Event.handlers, Frame.perform?_attach
      (isField.means rfl (isAccessor w)) (Frame.value?_of_read? readsValue)]
    cases w.combine? object event.fieldName (some d) with
    | none => rfl
    | some more =>
      simp only [Option.map_some, Option.bind_some, Option.bind_eq_bind]
      rw [Assembly.exec_local rfl, Event.subscribers, Frame.perform?_increment
        (isCount.means rfl (isAccessor more)), Option.bind_some]
      exact exec_transition rfl (isAccessor _) isCount registers

theorem access_remove
    (found : A.event? object event.name = some (accessors event register unregister))
    (isField : IsOwnField A object event.fieldName) (isCount : IsOwnField A object event.countName)
    (unregisters : Does A object unregister effect) :
    A.access object event.name .remove value w = unsubscribe? event object effect value w := by
  have isStart : Frame.IsAccessor ⟨object, Assembly.accessorLocals value, w⟩ :=
    isAccessor_accessorLocals
  have readsValue : Frame.read? A ⟨object, Assembly.accessorLocals value, w⟩ (.name "value") =
      some value := Frame.read?_local rfl
  rw [Assembly.access_eq found, Change.accessor, accessors, Assembly.exec_guarded
    (Frame.test?_isNull readsValue), unsubscribe?]
  cases value with
  | none =>
    simp only [Option.isNone_none, if_true, Assembly.exec_leave]
    rfl
  | some d =>
    simp only [Option.isNone_some, Bool.false_eq_true, if_false, reduceCtorEq]
    -- The frame after `previous` is bound, for any world.
    set after : World Object Other → Frame Object Other := fun w' =>
      ⟨object, Function.update (Assembly.accessorLocals (some d)) "previous"
        (some (w.delegates object event.fieldName)), w'⟩ with isAfter
    have isAccessor : ∀ w', (after w').IsAccessor := by
      intro w' name notValue notPrevious
      simp [isAfter, Function.update_of_ne notPrevious, Assembly.accessorLocals, notValue]
    have readsField : ∀ w', (after w').read? A (.name event.fieldName) =
        some (w'.delegates object event.fieldName) := fun w' =>
      Frame.read?_field (isField.means rfl (isAccessor w'))
    have readsPrevious : ∀ w', (after w').read? A (.name "previous") =
        some (w.delegates object event.fieldName) := fun w' => Frame.read?_local rfl
    have valued : (after w).value? A (.name "value") = some (some d, w) :=
      Frame.value?_of_read? (Frame.read?_local rfl)
    rw [Assembly.exec_local rfl, Event.handlers, Frame.perform?_bind rfl (Frame.value?_of_read?
      (Frame.read?_field (isField.means rfl isStart))), Option.bind_some, Assembly.exec_local rfl,
      Frame.perform?_detach (isField.means rfl (isAccessor w)) valued, Option.bind_some,
      Assembly.exec_guarded (Frame.test?_same (readsPrevious _) (readsField _))]
    simp only [decide_eq_true_eq]
    split
    · rw [Assembly.exec_leave]
      rfl
    · rw [Assembly.exec_local rfl, Event.subscribers, Frame.perform?_decrement
        (isCount.means rfl (isAccessor _)), Option.bind_some]
      exact exec_transition rfl (isAccessor _) isCount unregisters

end Layer

/-! ### The objects of a library -/

/-- The one object that native code raises events on, and the objects that pass them on. -/
inductive Party
  | native
  | forwarder (index : Nat)
  deriving DecidableEq

/-- The accessors of an event on an object. -/
def Event.accessorsOn (event : Event) : Party → Block × Block
  | .native => event.nativeAccessors
  | .forwarder _ => event.forwardingAccessors

/-- What the accessors of an event do depends on its name only. -/
theorem Event.accessorsOn_eq {event other : Event} {party : Party}
    (same : other.name = event.name) : other.accessorsOn party = event.accessorsOn party := by
  cases party with
  | native =>
    simp only [accessorsOn, nativeAccessors, accessors, handlers, subscribers, callback,
      setCallback, registration, raiserName, countName, callbackName, fieldName, same]
  | forwarder index =>
    simp only [accessorsOn, forwardingAccessors, accessors, handlers, subscribers, nativeEvent,
      detachForwarder, forwarderName, countName, fieldName, same]

namespace Library

variable (lib : Library) (names : ClassNames) (target : Target)

/-- The objects of a surface: an instance of the native events class, and any number of forwarders
around it. -/
def eventObjects : Assembly Party where
  members
    | .native => (lib.nativeEventsClass names target).members
    | .forwarder _ => (lib.forwarderClass names target).members
  shown?
    | .forwarder _, property =>
      if property = Collaborator.nativeEvents.property then some .native else none
    | .native, _ => none

variable {lib names target} {event : Event} {name : String}

/-- A search that can only find one value finds it if it is there. -/
theorem findSome?_eq_of_mem {α β : Type} {f : α → Option β} {xs : List α} {x : α} {found : β}
    (isThere : x ∈ xs) (finds : f x = some found)
    (only : ∀ other ∈ xs, f other = none ∨ f other = some found) :
    xs.findSome? f = some found := by
  induction xs with
  | nil => simp at isThere
  | cons first rest ih =>
    rw [List.findSome?_cons]
    rcases only first List.mem_cons_self with passed | here
    · rw [passed]
      have inRest : x ∈ rest := by
        rcases List.mem_cons.mp isThere with rfl | inRest
        · rw [passed] at finds
          cases finds
        · exact inRest
      exact ih inRest fun other inside => only other (List.mem_cons_of_mem _ inside)
    · rw [here]

theorem mem_nativeMembers {m : Member} :
    m ∈ (lib.eventObjects names target).members .native ↔
      m ∈ collaboratorMembers .entryPoints (names.nativeEvents target) (names.entryPoints target) ∨
      (∃ event ∈ lib.events, .delegate (lib.handlerDelegate (.native target) event) = m) ∨
      (∃ event ∈ lib.events, m ∈ event.nativeFields) ∨
      (∃ event ∈ lib.events, event.member "public" event.nativeAccessors = m) ∨
      ∃ event ∈ lib.events, lib.raiser (.native target) event = m :=
  mem_nativeEventsClass_members

theorem mem_forwarderMembers {m : Member} {index : Nat} :
    m ∈ (lib.eventObjects names target).members (.forwarder index) ↔
      m ∈ collaboratorMembers .nativeEvents (names.forwarder target) (names.nativeEvents target) ∨
      (∃ event ∈ lib.events, m ∈ event.forwardingFields) ∨
      (∃ event ∈ lib.events, event.member "public override" event.forwardingAccessors = m) ∨
      (∃ event ∈ lib.events, lib.raiser (.application target) event = m) ∨
      (∃ event ∈ lib.events, lib.forwarder target event = m) ∨
      m = lib.detachRoutine ∨
      m = .method "public override" disposeSignature
        (.ofSteps [.evaluate (.callOwn "DetachForwarders" [])]) ∨
      m ∈ scalarConversions target false :=
  mem_forwarderClass_members

/-- What the members of an object are. -/
inductive MemberOf (lib : Library) (party : Party) : Member → Prop
  | collaborator {collaborator : Collaborator} {className type : String} {m : Member} :
      collaborator.field.toList.head? = some '_' →
      m ∈ collaboratorMembers collaborator className type → MemberOf lib party m
  | delegate {declared : Delegate} : MemberOf lib party (.delegate declared)
  | field {event : Event} {m : Member} : m ∈ event.nativeFields ∨ m ∈ event.forwardingFields →
      MemberOf lib party m
  | event {event : Event} {modifiers : String} : event ∈ lib.events →
      MemberOf lib party (event.member modifiers (event.accessorsOn party))
  | method {modifiers : String} {signature : Signature} {body : Block} :
      MemberOf lib party (.method modifiers signature body)

theorem memberOf_of_mem {party : Party} {m : Member}
    (isMember : m ∈ (lib.eventObjects names target).members party) : MemberOf lib party m := by
  cases party with
  | native =>
    rcases mem_nativeMembers.mp isMember with
      built | ⟨event, -, rfl⟩ | ⟨event, -, isField⟩ | ⟨event, isEvent, rfl⟩ | ⟨event, -, rfl⟩
    · exact .collaborator rfl built
    · exact .delegate
    · exact .field (.inl isField)
    · exact .event isEvent
    · exact .method
  | forwarder index =>
    rcases mem_forwarderMembers.mp isMember with
      built | ⟨event, -, isField⟩ | ⟨event, isEvent, rfl⟩ | ⟨event, -, rfl⟩ | ⟨event, -, rfl⟩ |
        rfl | rfl | converts
    · exact .collaborator rfl built
    · exact .field (.inr isField)
    · exact .event isEvent
    · exact .method
    · exact .method
    · exact .method
    · exact .method
    · simp only [scalarConversions, Bool.false_eq_true, if_false, List.mem_cons, List.not_mem_nil,
        or_false] at converts
      rcases converts with rfl | rfl <;> exact .method

/-- Only the events of the library have accessors. -/
theorem exists_of_accessorsOf? {party : Party} {m : Member} {bodies : Block × Block}
    (isMember : m ∈ (lib.eventObjects names target).members party)
    (found : m.accessorsOf? name = some bodies) :
    ∃ event ∈ lib.events, event.name = name ∧ bodies = event.accessorsOn party := by
  cases memberOf_of_mem isMember with
  | collaborator _ built =>
    rcases mem_collaboratorMembers.mp built with rfl | rfl | rfl <;> cases found
  | delegate => cases found
  | field isField =>
    simp only [Event.nativeFields, Event.forwardingFields, List.mem_cons, List.not_mem_nil,
      or_false] at isField
    rcases isField with (rfl | rfl | rfl) | (rfl | rfl) <;> cases found
  | event isEvent =>
    simp only [Event.member, Member.accessorsOf?, Option.ite_none_right_eq_some,
      Option.some.injEq] at found
    exact ⟨_, isEvent, found.1, found.2.symm⟩
  | method => cases found

/-- The accessors of an event are found by its name. -/
theorem event?_eq {party : Party} (isEvent : event ∈ lib.events) :
    (lib.eventObjects names target).event? party event.name = some (event.accessorsOn party) := by
  obtain ⟨modifiers, isMember⟩ : ∃ modifiers, event.member modifiers (event.accessorsOn party) ∈
      (lib.eventObjects names target).members party := by
    cases party with
    | native =>
      exact ⟨_, mem_nativeMembers.mpr (.inr (.inr (.inr (.inl ⟨event, isEvent, rfl⟩))))⟩
    | forwarder index =>
      exact ⟨_, mem_forwarderMembers.mpr (.inr (.inr (.inl ⟨event, isEvent, rfl⟩)))⟩
  refine findSome?_eq_of_mem isMember (if_pos rfl) fun m isOther => ?_
  cases found : m.accessorsOf? event.name with
  | none => exact .inl rfl
  | some bodies =>
    -- Another event of the same name has the same accessors.
    obtain ⟨other, -, same, rfl⟩ := exists_of_accessorsOf? isOther found
    exact .inr (congrArg some (Event.accessorsOn_eq same))

theorem exists_event_of_event? {party : Party} {bodies : Block × Block}
    (found : (lib.eventObjects names target).event? party name = some bodies) :
    ∃ event ∈ lib.events, event.name = name := by
  obtain ⟨m, isMember, isFound⟩ := List.exists_of_findSome?_eq_some found
  obtain ⟨event, isEvent, same, -⟩ := exists_of_accessorsOf? isMember isFound
  exact ⟨event, isEvent, same⟩

/-- A method of a forwarder without parameters that is none of the methods of an event. -/
theorem routineOf?_of_ne {m : Member} {index : Nat} (notRaiser : name.toList.head? ≠ some 'O')
    (notForwarder : name.toList.head? ≠ some 'F')
    (isMember : m ∈ (lib.eventObjects names target).members (.forwarder index))
    (notDetach : m ≠ lib.detachRoutine)
    (notDispose : m ≠ .method "public override" disposeSignature
      (.ofSteps [.evaluate (.callOwn "DetachForwarders" [])])) :
    Member.routineOf? name m = none := by
  rcases mem_forwarderMembers.mp isMember with
    built | ⟨other, -, isField⟩ | ⟨other, -, rfl⟩ | ⟨other, -, rfl⟩ | ⟨other, -, rfl⟩ | rfl | rfl |
      converts
  · rcases mem_collaboratorMembers.mp built with rfl | rfl | rfl <;> rfl
  · simp only [Event.forwardingFields, List.mem_cons, List.not_mem_nil, or_false] at isField
    rcases isField with rfl | rfl <;> rfl
  · rfl
  · refine if_neg fun ⟨same, _⟩ => notRaiser ?_
    simp [← same, Event.raiserName]
  · refine if_neg fun ⟨same, _⟩ => notForwarder ?_
    simp [← same, Event.forwarderName]
  · exact absurd rfl notDetach
  · exact absurd rfl notDispose
  · simp only [scalarConversions, Bool.false_eq_true, if_false, List.mem_cons, List.not_mem_nil,
      or_false] at converts
    rcases converts with rfl | rfl <;> exact if_neg fun ⟨_, noParams⟩ => by cases noParams

theorem routine?_detachForwarders {index : Nat} :
    (lib.eventObjects names target).routine? (.forwarder index) "DetachForwarders" =
      some (.ofSteps (lib.events.flatMap fun event =>
        [event.detachForwarder, .assign event.handlers .null,
          .assign event.subscribers (.number 0)])) := by
  refine findSome?_eq_of_mem (x := lib.detachRoutine)
    (mem_forwarderMembers.mpr (.inr (.inr (.inr (.inr (.inr (.inl rfl))))))) rfl
    fun m isMember => ?_
  by_cases isDetach : m = lib.detachRoutine
  · rw [isDetach]
    exact .inr rfl
  · by_cases isDispose : m = .method "public override" disposeSignature
        (.ofSteps [.evaluate (.callOwn "DetachForwarders" [])])
    · rw [isDispose]
      exact .inl rfl
    · exact .inl (routineOf?_of_ne (by decide) (by decide) isMember isDetach isDispose)

theorem routine?_dispose {index : Nat} :
    (lib.eventObjects names target).routine? (.forwarder index) "Dispose" =
      some (.ofSteps [.evaluate (.callOwn "DetachForwarders" [])]) := by
  refine findSome?_eq_of_mem
    (mem_forwarderMembers.mpr (.inr (.inr (.inr (.inr (.inr (.inr (.inl rfl)))))))) rfl
    fun m isMember => ?_
  by_cases isDispose : m = .method "public override" disposeSignature
      (.ofSteps [.evaluate (.callOwn "DetachForwarders" [])])
  · rw [isDispose]
    exact .inr rfl
  · by_cases isDetach : m = lib.detachRoutine
    · rw [isDetach]
      exact .inl rfl
    · exact .inl (routineOf?_of_ne (by decide) (by decide) isMember isDetach isDispose)

/-! ### Fields and methods -/

/-- All fields start with an underscore. -/
theorem underscored_of_hasField {party : Party}
    (hasField : (lib.eventObjects names target).hasField party name = true) :
    name.toList.head? = some '_' := by
  obtain ⟨m, isMember, isField⟩ := List.any_eq_true.mp hasField
  cases memberOf_of_mem isMember with
  | collaborator underscored built =>
    rcases mem_collaboratorMembers.mp built with rfl | rfl | rfl
    · rwa [← eq_of_beq isField]
    all_goals cases isField
  | delegate => cases isField
  | field isOf =>
    simp only [Event.nativeFields, Event.forwardingFields, List.mem_cons, List.not_mem_nil,
      or_false] at isOf
    rcases isOf with (rfl | rfl | rfl) | (rfl | rfl) <;>
      rw [← eq_of_beq isField] <;> simp [Event.callbackName, Event.countName, Event.fieldName]
  | event => cases isField
  | method => cases isField

theorem isOwnField_of_mem {party : Party} {m : Member}
    (isMember : m ∈ (lib.eventObjects names target).members party)
    (isField : m.isField name = true) :
    IsOwnField (lib.eventObjects names target) party name := by
  have hasField : (lib.eventObjects names target).hasField party name = true :=
    List.any_eq_true.mpr ⟨m, isMember, isField⟩
  exact ⟨hasField, underscored_of_hasField hasField⟩

/-- A private field of an event in the native events class. -/
theorem isOwnField_native (isEvent : event ∈ lib.events)
    (isField : name ∈ [event.fieldName, event.callbackName, event.countName]) :
    IsOwnField (lib.eventObjects names target) .native name := by
  obtain ⟨m, isOf, named⟩ : ∃ m ∈ event.nativeFields, m.isField name = true := by
    simp only [List.mem_cons, List.not_mem_nil, or_false] at isField
    rcases isField with rfl | rfl | rfl <;>
      simp [Event.nativeFields, Event.privateField, Member.isField]
  exact isOwnField_of_mem (mem_nativeMembers.mpr (.inr (.inr (.inl ⟨event, isEvent, isOf⟩)))) named

/-- A private field of an event in the forwarder. -/
theorem isOwnField_forwarder {index : Nat} (isEvent : event ∈ lib.events)
    (isField : name ∈ [event.fieldName, event.countName]) :
    IsOwnField (lib.eventObjects names target) (.forwarder index) name := by
  obtain ⟨m, isOf, named⟩ : ∃ m ∈ event.forwardingFields, m.isField name = true := by
    simp only [List.mem_cons, List.not_mem_nil, or_false] at isField
    rcases isField with rfl | rfl <;>
      simp [Event.forwardingFields, Event.privateField, Member.isField]
  exact isOwnField_of_mem (mem_forwarderMembers.mpr (.inr (.inl ⟨event, isEvent, isOf⟩))) named

/-- A method stands for a delegate of its own where no variable has its name. -/
theorem value?_ownMethod {Other : Type} {φ : Frame Party Other} {m : Member}
    (plain : name.toList.head? ≠ some '_') (noLocal : φ.locals name = none)
    (isMember : m ∈ (lib.eventObjects names target).members φ.self)
    (isMethod : m.isMethod name = true) :
    φ.value? (lib.eventObjects names target) (.name name) =
      some (some (.single φ.world.made (.own φ.self name)), φ.world.making) := by
  have noField : (lib.eventObjects names target).hasField φ.self name = false :=
    Bool.eq_false_iff.mpr fun hasField => plain (underscored_of_hasField hasField)
  exact Frame.value?_method noLocal noField (List.any_eq_true.mpr ⟨m, isMember, isMethod⟩)

end Library

/-! ### What the accessors do -/

namespace Event

variable {Other : Type} [DecidableEq Other] (event : Event)

/-- The callback of an event given to the native library. -/
def register (w : World Party Other) : World Party Other :=
  let callback := some (.single w.made (.own .native event.raiserName))
  (w.making.setDelegate .native event.callbackName callback).give event.registration callback

/-- The callback of an event taken back from the native library. -/
def unregister (w : World Party Other) : World Party Other :=
  (w.give event.registration none).setDelegate .native event.callbackName none

/-- The world after a handler is added to or removed from a native event. -/
def changeNative? (change : Change) (value : Reference Party Other) (w : World Party Other) :
    Option (World Party Other) :=
  match change with
  | .add => subscribe? event .native (fun w => some (event.register w)) value w
  | .remove => unsubscribe? event .native (fun w => some (event.unregister w)) value w

/-- The statement with which a forwarder adds its forwarding method to the native event, or removes
it. -/
def forwardingStep : Change → Step
  | .add => .attach event.nativeEvent (.name event.forwarderName)
  | .remove => event.detachForwarder

/-- The world after a forwarder adds its forwarding method to the native event, or removes it. -/
def changeForwarding? (index : Nat) (change : Change) (w : World Party Other) :
    Option (World Party Other) :=
  event.changeNative? change (some (.single w.made (.own (.forwarder index) event.forwarderName)))
    w.making

/-- The world after a handler is added to or removed from an event of a forwarder. -/
def changeForwarder? (index : Nat) (change : Change) (value : Reference Party Other)
    (w : World Party Other) : Option (World Party Other) :=
  match change with
  | .add => subscribe? event (.forwarder index) (event.changeForwarding? index .add) value w
  | .remove => unsubscribe? event (.forwarder index) (event.changeForwarding? index .remove) value w

/-- The world after a handler is added to or removed from an event of a party. -/
def change? : Party → Change → Reference Party Other → World Party Other →
    Option (World Party Other)
  | .native => event.changeNative?
  | .forwarder index => event.changeForwarder? index

/-- `null` changes nothing. -/
theorem change?_null {party : Party} {change : Change} {w : World Party Other} :
    event.change? party change none w = some w := by
  cases party <;> cases change <;> rfl

/-- The world after a forwarder drops all handlers of an event. -/
def release? (index : Nat) (w : World Party Other) : Option (World Party Other) :=
  (event.changeForwarding? index .remove w).map fun w =>
    (w.setDelegate (.forwarder index) event.fieldName none).setNumber (.forwarder index)
      event.countName 0

end Event

namespace Library

variable {lib : Library} {names : ClassNames} {target : Target} {event : Event}
  {Other : Type} [DecidableEq Other] {value : Reference Party Other} {w : World Party Other}

theorem does_register (isEvent : event ∈ lib.events) :
    Does (lib.eventObjects names target) .native
      [.assign event.callback (.name event.raiserName), event.setCallback event.callback]
      fun w : World Party Other => some (event.register w) := by
  rintro ⟨_, locals, w⟩ rfl isAccessor
  have isField : ∀ w, Frame.meansField (lib.eventObjects names target) ⟨.native, locals, w⟩
      event.callbackName = true := fun w =>
    (isOwnField_native isEvent (by simp)).means rfl isAccessor
  have noLocal : locals event.raiserName = none := by
    -- Raisers start with a capital, which no variable of an accessor does.
    refine isAccessor _ ?_ ?_ <;> intro same <;> have start := congrArg (·.toList.head?) same <;>
      simp [Event.raiserName] at start
  have valued : Frame.value? (lib.eventObjects names target) ⟨.native, locals, w⟩
      (.name event.raiserName) =
        some (some (.single w.made (.own .native event.raiserName)), w.making) :=
    value?_ownMethod (by simp [Event.raiserName]) noLocal (mem_nativeMembers.mpr (.inr (.inr (.inr
      (.inr ⟨event, isEvent, rfl⟩))))) (beq_self_eq_true event.raiserName)
  rw [Block.ofSteps, List.foldr_cons, List.foldr_cons, List.foldr_nil, Assembly.exec_local rfl,
    Event.callback, Frame.perform?_assign (isField _) valued, Option.bind_some,
    Event.setCallback, entryPointsExpr, Assembly.exec_local rfl, Frame.perform?_give
      (Frame.value?_of_read? (Frame.read?_field (isField _))), Option.bind_some,
    Assembly.exec_done]
  simp [Event.register]

theorem does_unregister (isEvent : event ∈ lib.events) :
    Does (lib.eventObjects names target) .native
      [event.setCallback .null, .assign event.callback .null]
      fun w : World Party Other => some (event.unregister w) := by
  rintro ⟨_, locals, w⟩ rfl isAccessor
  have isField : ∀ w, Frame.meansField (lib.eventObjects names target) ⟨.native, locals, w⟩
      event.callbackName = true := fun w =>
    (isOwnField_native isEvent (by simp)).means rfl isAccessor
  have valued : ∀ w : World Party Other, Frame.value? (lib.eventObjects names target)
      ⟨.native, locals, w⟩ .null = some (none, w) := fun w => Frame.value?_of_read? rfl
  rw [Block.ofSteps, List.foldr_cons, List.foldr_cons, List.foldr_nil, Event.setCallback,
    entryPointsExpr, Assembly.exec_local rfl, Frame.perform?_give (valued w), Option.bind_some,
    Assembly.exec_local rfl, Event.callback, Frame.perform?_assign (isField _)
      (valued _), Option.bind_some, Assembly.exec_done]
  rfl

theorem access_native (isEvent : event ∈ lib.events) {change : Change} :
    (lib.eventObjects names target).access .native event.name change value w =
      event.changeNative? change value w := by
  have found : (lib.eventObjects names target).event? .native event.name = _ := event?_eq isEvent
  have isField : IsOwnField (lib.eventObjects names target) .native event.fieldName :=
    isOwnField_native isEvent (by simp)
  have isCount : IsOwnField (lib.eventObjects names target) .native event.countName :=
    isOwnField_native isEvent (by simp)
  rw [Event.accessorsOn, Event.nativeAccessors] at found
  cases change with
  | add => rw [access_add found isField isCount (does_register isEvent), Event.changeNative?]
  | remove =>
    rw [access_remove found isField isCount (does_unregister isEvent), Event.changeNative?]

/-- A statement of a forwarder changes the native event. -/
theorem exec_forwardingStep (isEvent : event ∈ lib.events) {index : Nat} {change : Change}
    {locals : String → Option (Reference Party Other)} {rest : Block}
    (noLocal : locals event.forwarderName = none) :
    (lib.eventObjects names target).exec ⟨.forwarder index, locals, w⟩
        (.step (event.forwardingStep change) rest) =
      (event.changeForwarding? index change w).bind fun w =>
        (lib.eventObjects names target).exec ⟨.forwarder index, locals, w⟩ rest := by
  have valued : Frame.value? (lib.eventObjects names target) ⟨.forwarder index, locals, w⟩
      (.name event.forwarderName) =
        some (some (.single w.made (.own (.forwarder index) event.forwarderName)), w.making) :=
    value?_ownMethod (by simp [Event.forwarderName]) noLocal (mem_forwarderMembers.mpr
      (.inr (.inr (.inr (.inr (.inl ⟨event, isEvent, rfl⟩))))))
      (beq_self_eq_true event.forwarderName)
  have shown : (lib.eventObjects names target).shown? (.forwarder index) "NativeEvents" =
      some .native := rfl
  cases change with
  | add =>
    rw [Event.forwardingStep, Event.nativeEvent, nativeEventsExpr,
      Assembly.exec_attach_event shown valued, access_native isEvent, Event.changeForwarding?]
  | remove =>
    rw [Event.forwardingStep, Event.detachForwarder, Event.nativeEvent, nativeEventsExpr,
      Assembly.exec_detach_event shown valued, access_native isEvent, Event.changeForwarding?]

theorem does_forwardingStep (isEvent : event ∈ lib.events) {index : Nat} {change : Change} :
    Does (lib.eventObjects names target) (.forwarder index) [event.forwardingStep change]
      (event.changeForwarding? index change : World Party Other → Option (World Party Other)) := by
  rintro ⟨_, locals, w⟩ rfl isAccessor
  have noLocal : locals event.forwarderName = none := by
    refine isAccessor _ ?_ ?_ <;> intro same <;> have start := congrArg (·.toList.head?) same <;>
      simp [Event.forwarderName] at start
  rw [Block.ofSteps, List.foldr_cons, List.foldr_nil, exec_forwardingStep isEvent noLocal]
  cases event.changeForwarding? index change w with
  | none => rfl
  | some w => exact Assembly.exec_done

theorem access_forwarder (isEvent : event ∈ lib.events) {index : Nat} {change : Change} :
    (lib.eventObjects names target).access (.forwarder index) event.name change value w =
      event.changeForwarder? index change value w := by
  have found : (lib.eventObjects names target).event? (.forwarder index) event.name = _ :=
    event?_eq isEvent
  have isField : IsOwnField (lib.eventObjects names target) (.forwarder index) event.fieldName :=
    isOwnField_forwarder isEvent (by simp)
  have isCount : IsOwnField (lib.eventObjects names target) (.forwarder index) event.countName :=
    isOwnField_forwarder isEvent (by simp)
  rw [Event.accessorsOn, Event.forwardingAccessors] at found
  cases change with
  | add =>
    have joins : Does (lib.eventObjects names target) (.forwarder index) [event.forwardingStep .add]
        (event.changeForwarding? index .add : World Party Other → Option (World Party Other)) :=
      does_forwardingStep isEvent
    rw [access_add found isField isCount joins, Event.changeForwarder?]
  | remove =>
    have leaves : Does (lib.eventObjects names target) (.forwarder index)
        [event.forwardingStep .remove]
        (event.changeForwarding? index .remove : World Party Other → Option (World Party Other)) :=
      does_forwardingStep isEvent
    rw [access_remove found isField isCount leaves, Event.changeForwarder?]

/-- What the accessors of an event do. -/
theorem access_event (isEvent : event ∈ lib.events) {party : Party} {change : Change} :
    (lib.eventObjects names target).access party event.name change value w =
      event.change? party change value w := by
  cases party with
  | native => exact access_native isEvent
  | forwarder index => exact access_forwarder isEvent

/-- A forwarder drops the handlers of one event after another. -/
theorem exec_releases {index : Nat} {events : List Event}
    (areEvents : ∀ event ∈ events, event ∈ lib.events) :
    ((lib.eventObjects names target).exec ⟨.forwarder index, fun _ => none, w⟩
        (.ofSteps (events.flatMap fun event =>
          [event.detachForwarder, .assign event.handlers .null,
            .assign event.subscribers (.number 0)]))).map (·.2.world) =
      events.foldlM (fun w event => event.release? index w) w := by
  induction events generalizing w with
  | nil => rw [List.flatMap_nil, Block.ofSteps, List.foldr_nil, Assembly.exec_done]; rfl
  | cons event events ih =>
    have isEvent : event ∈ lib.events := areEvents event List.mem_cons_self
    have isField : ∀ w : World Party Other, Frame.meansField (lib.eventObjects names target)
        ⟨.forwarder index, fun _ => none, w⟩ event.fieldName = true := fun w =>
      (isOwnField_forwarder isEvent (by simp)).means rfl fun _ _ _ => rfl
    have isCount : ∀ w : World Party Other, Frame.meansField (lib.eventObjects names target)
        ⟨.forwarder index, fun _ => none, w⟩ event.countName = true := fun w =>
      (isOwnField_forwarder isEvent (by simp)).means rfl fun _ _ _ => rfl
    rw [List.flatMap_cons, Block.ofSteps, List.foldr_append, List.foldr_cons, List.foldr_cons,
      List.foldr_cons, List.foldr_nil, ← Event.forwardingStep, exec_forwardingStep isEvent rfl,
      List.foldlM_cons, Event.release?]
    cases event.changeForwarding? index .remove w with
    | none => rfl
    | some less =>
      simp only [Option.bind_some, Option.map_some, Option.bind_eq_bind]
      rw [Assembly.exec_local rfl, Event.handlers, Frame.perform?_assign (isField _)
        (Frame.value?_of_read? rfl), Option.bind_some, Assembly.exec_local rfl, Event.subscribers,
        Frame.perform?_assign_number (isCount _), Option.bind_some]
      exact ih fun event inRest => areEvents event (List.mem_cons_of_mem _ inRest)

theorem invoke_dispose {index : Nat} :
    (lib.eventObjects names target).invoke (.forwarder index) "Dispose" w =
      lib.events.foldlM (fun w event => event.release? index w) w := by
  rw [Assembly.invoke_eq routine?_dispose, Block.ofSteps, List.foldr_cons, List.foldr_nil,
    Assembly.exec_call, Assembly.invoke_eq routine?_detachForwarders, exec_releases fun _ => id]
  -- `Dispose` does nothing after the call.
  cases lib.events.foldlM (fun w event => event.release? index w) w with
  | none => rfl
  | some w => rw [Option.bind_some, Assembly.exec_done]; rfl

end Library

end InteropGlue
