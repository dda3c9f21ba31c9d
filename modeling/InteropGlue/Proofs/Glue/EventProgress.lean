import InteropGlue.Proofs.Glue.EventFrames
/-!
# Operations on events

The operations that applications and others have on the objects: all of them end, unless a field
runs out of room for handlers.

## Main Definitions

* `Operation`, `Library.perform?` — operations, and what they do.
* `Library.performAll?` — operations from the start on.

## Main Results

* `Library.performAll?_exists` — operations end that could not fill a field.

## Design Notes

A delegate that comes from outside has one handler, which is none of the private forwarding methods:
the type of operations leaves no other. A change adds at most one handler to each field, since the
layers are different objects, so the number of operations bounds what a field holds.
-/

namespace InteropGlue

open CSharp

/-! ### One layer -/

section Layer

variable {Object Other : Type} [DecidableEq Object] {event : Event} {object : Object}
  {w : World Object Other} {effect : World Object Other → Option (World Object Other)}
  {value : Reference Object Other}

theorem subscribe?_exists
    (room : (w.handlers object event.fieldName).length + (Multicast.handlersOf value).length ≤
      maxLength)
    (effects : ∃ w', effect (event.joined object value w) = some w') :
    ∃ w', subscribe? event object effect value w = some w' := by
  by_cases isNull : value = none
  · exact ⟨w, subscribe?_iff.mpr (.inl ⟨isNull, rfl⟩)⟩
  · by_cases isFirst : (event.joined object value w).numbers object event.countName = 1
    · obtain ⟨w', ran⟩ := effects
      exact ⟨w', subscribe?_iff.mpr (.inr ⟨isNull, room, by rwa [if_pos isFirst]⟩)⟩
    · exact ⟨_, subscribe?_iff.mpr (.inr ⟨isNull, room, by rw [if_neg isFirst]⟩)⟩

theorem length_joined_le {o : Object} {name : String} :
    ((event.joined object value w).handlers o name).length ≤
      (w.handlers o name).length +
        if o = object then (Multicast.handlersOf value).length else 0 := by
  by_cases isField : o = object ∧ name = event.fieldName
  · rw [isField.1, isField.2, handlers_joined, List.length_append, if_pos rfl]
  · rw [World.handlers, recounts_joined.delegates _ _ isField, World.handlers]
    exact Nat.le_add_right _ _

variable [DecidableEq Other]

theorem unsubscribe?_exists (effects : ∃ w', effect (event.lessened object value w) = some w') :
    ∃ w', unsubscribe? event object effect value w = some w' := by
  cases value with
  | none => exact ⟨w, rfl⟩
  | some d =>
    by_cases isThere : d.handlers <:+: w.handlers object event.fieldName
    · by_cases isLast : (event.lessened object (some d) w).numbers object event.countName = 0
      · obtain ⟨w', ran⟩ := effects
        exact ⟨w', unsubscribe?_iff.mpr (.inr ⟨isThere, by rwa [if_pos isLast]⟩)⟩
      · exact ⟨_, unsubscribe?_iff.mpr (.inr ⟨isThere, by rw [if_neg isLast]⟩)⟩
    · exact ⟨w, unsubscribe?_iff.mpr (.inl ⟨isThere, rfl⟩)⟩

theorem length_lessened_le {o : Object} {name : String} :
    ((event.lessened object value w).handlers o name).length ≤ (w.handlers o name).length := by
  by_cases isField : o = object ∧ name = event.fieldName
  · simp only [isField, Event.lessened, World.handlers, World.delegates_count,
      World.delegates_remove, and_self, if_true]
    exact Multicast.length_removed_le
  · rw [World.handlers, recounts_lessened.delegates _ _ isField, World.handlers]

end Layer

/-! ### Both layers -/

/-- How many handlers a change can add. -/
def CSharp.Change.growth : Change → Nat
  | .add => 1
  | .remove => 0

namespace Event

variable {Other : Type} {event : Event} {w w' : World Party Other} {value : Reference Party Other}
  {change : Change} {index : Nat} {party : Party} {name : String}

theorem length_register_le : ((event.register w).handlers party name).length ≤
    if party = .native ∧ name = event.callbackName then 1 else (w.handlers party name).length := by
  rw [World.handlers, register, World.delegates_give, World.delegates_setDelegate]
  split <;> simp [World.handlers]

theorem length_unregister_le :
    ((event.unregister w).handlers party name).length ≤ (w.handlers party name).length := by
  rw [World.handlers, unregister, World.delegates_setDelegate]
  split <;> simp [World.handlers]

variable [DecidableEq Other]

/-- A native change adds at most one handler to a field of the native object. -/
theorem changeNative?_length (isSmall : (Multicast.handlersOf value).length ≤ 1)
    (ran : event.changeNative? change value w = some w') :
    (w'.handlers party name).length ≤
      (w.handlers party name).length + if party = .native then change.growth else 0 := by
  cases change with
  | add =>
    have joined : ((event.joined .native value w).handlers party name).length ≤
        (w.handlers party name).length + if party = .native then 1 else 0 :=
      Nat.le_trans length_joined_le (by split <;> omega)
    rw [changeNative?] at ran
    rcases subscribe?_iff.mp ran with ⟨-, rfl⟩ | ⟨-, -, ran⟩
    · exact Nat.le_add_right _ _
    split at ran
    · obtain rfl := Option.some.inj ran
      refine Nat.le_trans length_register_le ?_
      -- The field of the callback gets one handler, whatever it held.
      split
      · rename_i isCallback
        rw [if_pos isCallback.1]
        exact Nat.le_add_left _ _
      · exact joined
    · rw [ran]
      exact joined
  | remove =>
    rw [changeNative?] at ran
    cases value with
    | none =>
      obtain rfl : w = w' := by simpa [unsubscribe?] using ran
      exact Nat.le_add_right _ _
    | some d =>
      refine Nat.le_trans ?_ (Nat.le_add_right _ _)
      rcases unsubscribe?_iff.mp ran with ⟨-, rfl⟩ | ⟨-, ran⟩
      · exact Nat.le_refl _
      split at ran
      · obtain rfl := Option.some.inj ran
        exact Nat.le_trans length_unregister_le length_lessened_le
      · rw [ran]
        exact length_lessened_le

theorem changeNative?_exists
    (room : (w.handlers .native event.fieldName).length + (Multicast.handlersOf value).length ≤
      maxLength) :
    ∃ w', event.changeNative? change value w = some w' := by
  cases change with
  | add =>
    rw [changeNative?]
    exact subscribe?_exists room ⟨_, rfl⟩
  | remove =>
    rw [changeNative?]
    exact unsubscribe?_exists ⟨_, rfl⟩

theorem changeForwarding?_length (ran : event.changeForwarding? index change w = some w') :
    (w'.handlers party name).length ≤
      (w.handlers party name).length + if party = .native then change.growth else 0 := by
  rw [changeForwarding?] at ran
  exact changeNative?_length (w := w.making) (by simp) ran

/-- A forwarder can join the native handlers and leave them. -/
theorem changeForwarding?_exists (room : (w.handlers .native event.fieldName).length < maxLength) :
    ∃ w', event.changeForwarding? index change w = some w' := by
  rw [changeForwarding?]
  exact changeNative?_exists (w := w.making) room

/-- A change adds at most one handler to a field of the native object or of the forwarder. -/
theorem changeForwarder?_length (isSmall : (Multicast.handlersOf value).length ≤ 1)
    (ran : event.changeForwarder? index change value w = some w') :
    (w'.handlers party name).length ≤ (w.handlers party name).length + change.growth := by
  cases change with
  | add =>
    have joined : ((event.joined (.forwarder index) value w).handlers party name).length ≤
        (w.handlers party name).length + if party = .forwarder index then 1 else 0 :=
      Nat.le_trans length_joined_le (by split <;> omega)
    rw [changeForwarder?] at ran
    rcases subscribe?_iff.mp ran with ⟨-, rfl⟩ | ⟨-, -, ran⟩
    · exact Nat.le_add_right _ _
    split at ran
    · have passed : (w'.handlers party name).length ≤
          ((event.joined (.forwarder index) value w).handlers party name).length +
            if party = .native then 1 else 0 := changeForwarding?_length ran
      -- The two layers are different objects, so at most one of them adds to the field.
      cases party with
      | native =>
        simp only [reduceCtorEq, if_false, if_true, Change.growth] at joined passed ⊢
        omega
      | forwarder other =>
        simp only [reduceCtorEq, if_false, Change.growth] at joined passed ⊢
        split at joined <;> omega
    · rw [ran]
      exact Nat.le_trans joined (by split <;> simp [Change.growth])
  | remove =>
    rw [changeForwarder?] at ran
    cases value with
    | none =>
      obtain rfl : w = w' := by simpa [unsubscribe?] using ran
      exact Nat.le_refl _
    | some d =>
      rcases unsubscribe?_iff.mp ran with ⟨-, rfl⟩ | ⟨-, ran⟩
      · exact Nat.le_refl _
      split at ran
      · have passed : (w'.handlers party name).length ≤
            ((event.lessened (.forwarder index) (some d) w).handlers party name).length := by
          simpa [Change.growth] using changeForwarding?_length ran
        exact Nat.le_trans passed length_lessened_le
      · rw [ran]
        exact length_lessened_le

theorem changeForwarder?_exists (isSmall : (Multicast.handlersOf value).length ≤ 1)
    (room : ∀ party, (w.handlers party event.fieldName).length < maxLength) :
    ∃ w', event.changeForwarder? index change value w = some w' := by
  -- What the forwarder does to its own fields leaves the native ones alone.
  have native : ∀ w' : World Party Other, Recounts event (.forwarder index) w w' →
      (w'.handlers .native event.fieldName).length < maxLength := fun w' recounts => by
    rw [World.handlers, recounts.delegates _ _ (by simp), ← World.handlers]
    exact room _
  cases change with
  | add =>
    rw [changeForwarder?]
    exact subscribe?_exists (Nat.le_trans (Nat.add_le_add_left isSmall _) (room _))
      (changeForwarding?_exists (native _ recounts_joined))
  | remove =>
    rw [changeForwarder?]
    exact unsubscribe?_exists (changeForwarding?_exists (native _ recounts_lessened))

/-- A forwarder can drop its handlers, and no field has more of them then. -/
theorem release?_exists (room : (w.handlers .native event.fieldName).length < maxLength) :
    ∃ w', event.release? index w = some w' ∧
      ∀ party name, (w'.handlers party name).length ≤ (w.handlers party name).length := by
  obtain ⟨less, ran⟩ : ∃ less, event.changeForwarding? index .remove w = some less :=
    changeForwarding?_exists room
  refine ⟨_, by rw [release?, ran]; rfl, fun party name => ?_⟩
  have passed : (less.handlers party name).length ≤ (w.handlers party name).length := by
    simpa [Change.growth] using changeForwarding?_length ran
  refine Nat.le_trans ?_ passed
  rw [World.handlers, World.delegates_setNumber, World.delegates_setDelegate]
  split <;> simp [World.handlers]

end Event

/-! ### Operations -/

/-- A delegate that others have made: an instance with a handler that is no forwarding method. -/
structure Subscriber (Other : Type) where
  identity : Nat
  handler : Other

/-- The delegate of a subscriber, which is `null` for none. -/
def Subscriber.reference {Other : Type} (subscriber : Option (Subscriber Other)) :
    Reference Party Other :=
  subscriber.map fun s => .single s.identity (.other s.handler)

/-- What happens to the objects from outside. -/
inductive Operation (Other : Type)
  /-- A delegate is added to an event of a party, or removed from it. -/
  | change (party : Party) (event : String) (change : Change) (value : Option (Subscriber Other))
  /-- The use of a forwarder ends. -/
  | dispose (index : Nat)

namespace Library

variable {Other : Type} [DecidableEq Other] (lib : Library) (names : ClassNames) (target : Target)

/-- The world after an operation. -/
def perform? (w : World Party Other) : Operation Other → Option (World Party Other)
  | .change party event change value =>
    (lib.eventObjects names target).access party event change (Subscriber.reference value) w
  | .dispose index => (lib.eventObjects names target).invoke (.forwarder index) "Dispose" w

/-- The world after operations from the start on. -/
def performAll? (operations : List (Operation Other)) : Option (World Party Other) :=
  operations.foldlM (lib.perform? names target) World.start

variable {lib names target}

/-- The library has the event that an operation changes. -/
def Knows (lib : Library) : Operation Other → Prop
  | .change _ event _ _ => event ∈ lib.events.map Event.name
  | .dispose _ => True

theorem releases_exist {events : List Event} {index : Nat} {w : World Party Other}
    (room : ∀ party name, (w.handlers party name).length < maxLength) :
    ∃ w', events.foldlM (fun w event => event.release? index w) w = some w' ∧
      ∀ party name, (w'.handlers party name).length ≤ (w.handlers party name).length := by
  induction events generalizing w with
  | nil => exact ⟨w, rfl, fun _ _ => Nat.le_refl _⟩
  | cons event events ih =>
    obtain ⟨less, released, fewer⟩ := event.release?_exists (room .native _)
    obtain ⟨w', rest, fewest⟩ := ih fun party name => Nat.lt_of_le_of_lt (fewer party name)
      (room party name)
    refine ⟨w', ?_, fun party name => Nat.le_trans (fewest party name) (fewer party name)⟩
    rw [List.foldlM_cons, released]
    exact rest

/-- An operation ends, and adds at most one handler to each field. -/
theorem perform?_exists {operation : Operation Other} {w : World Party Other}
    (knows : lib.Knows operation)
    (room : ∀ party name, (w.handlers party name).length < maxLength) :
    ∃ w', lib.perform? names target w operation = some w' ∧
      ∀ party name, (w'.handlers party name).length ≤ (w.handlers party name).length + 1 := by
  cases operation with
  | change party name change value =>
    obtain ⟨event, isEvent, rfl⟩ := List.mem_map.mp knows
    have isSmall : (Multicast.handlersOf (Subscriber.reference value)).length ≤ 1 := by
      cases value <;> simp [Subscriber.reference]
    have growth : change.growth ≤ 1 := by cases change <;> decide
    rw [perform?, access_event isEvent]
    cases party with
    | native =>
      obtain ⟨w', ran⟩ :
          ∃ w', event.changeNative? change (Subscriber.reference value) w = some w' :=
        Event.changeNative?_exists (Nat.le_trans (Nat.add_le_add_left isSmall _) (room _ _))
      refine ⟨w', ran, fun party name => Nat.le_trans (Event.changeNative?_length isSmall ran) ?_⟩
      split <;> omega
    | forwarder index =>
      obtain ⟨w', ran⟩ :
          ∃ w', event.changeForwarder? index change (Subscriber.reference value) w = some w' :=
        Event.changeForwarder?_exists isSmall fun _ => room _ _
      exact ⟨w', ran, fun party name => Nat.le_trans (Event.changeForwarder?_length isSmall ran)
        (Nat.add_le_add_left growth _)⟩
  | dispose index =>
    obtain ⟨w', ran, fewer⟩ : ∃ w',
        lib.events.foldlM (fun w event => event.release? index w) w = some w' ∧
          ∀ party name, (w'.handlers party name).length ≤ (w.handlers party name).length :=
      releases_exist room
    exact ⟨w', by rw [perform?, invoke_dispose, ran],
      fun party name => Nat.le_succ_of_le (fewer party name)⟩

/-- Operations end that could not add more handlers to a field than it can hold. -/
theorem performAll?_exists {operations : List (Operation Other)}
    (knows : ∀ operation ∈ operations, lib.Knows operation)
    (room : operations.length ≤ maxLength) :
    ∃ w', lib.performAll? names target operations = some w' := by
  -- The induction carries how many handlers a field can have by now.
  have fromAny : ∀ n (w : World Party Other), (∀ party name, (w.handlers party name).length ≤ n) →
      n + operations.length ≤ maxLength →
        ∃ w', operations.foldlM (lib.perform? names target) w = some w' := by
    clear room
    induction operations with
    | nil => exact fun _ w _ _ => ⟨w, rfl⟩
    | cons operation operations ih =>
      intro n w few room
      rw [List.length_cons] at room
      obtain ⟨next, first, more⟩ : ∃ next, lib.perform? names target w operation = some next ∧
          ∀ party name, (next.handlers party name).length ≤ (w.handlers party name).length + 1 :=
        perform?_exists (knows operation List.mem_cons_self)
          fun party name => Nat.lt_of_le_of_lt (few party name) (by omega)
      obtain ⟨w', rest⟩ := ih (fun operation inRest =>
        knows operation (List.mem_cons_of_mem _ inRest)) (n + 1) next
        (fun party name => Nat.le_trans (more party name) (Nat.succ_le_succ (few party name)))
        (by omega)
      refine ⟨w', ?_⟩
      rw [List.foldlM_cons, first]
      exact rest
  exact fromAny 0 World.start (fun _ _ => Nat.le_refl _) (by omega)

end Library

end InteropGlue
