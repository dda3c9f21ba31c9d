import InteropGlue.Proofs.Glue.EventLayers
/-!
# What changes of events leave alone

The accessors of an event touch its own private fields only, and call its own entry point only.
Changes of a native event touch the native object only.

## Main Definitions

* `Event.DiffersOnly` — a world differs only in the fields of an event of some objects.

## Main Results

* `Event.changeNative?_differsOnly`, `Event.changeForwarder?_differsOnly`,
  `Event.release?_differsOnly` — what a change of an event can touch.
-/

namespace InteropGlue

open CSharp

namespace Event

variable {Other : Type} {event : Event} {w w' later : World Party Other}
  {parties wider : Party → Prop} {party : Party}

/-! ### What a change leaves alone -/

/-- Two worlds differ only in the fields of an event of some objects, and in the callbacks given for
the event. -/
structure DiffersOnly (event : Event) (parties : Party → Prop) (w w' : World Party Other) :
    Prop where
  delegates : ∀ party name, (parties party → name ≠ event.fieldName ∧ name ≠ event.callbackName) →
    w'.delegates party name = w.delegates party name
  numbers : ∀ party name, (parties party → name ≠ event.countName) →
    w'.numbers party name = w.numbers party name
  callbacks : ∀ entryPoint, entryPoint ≠ event.registration →
    callbacksOf entryPoint w' = callbacksOf entryPoint w

namespace DiffersOnly

theorem refl : event.DiffersOnly parties w w := ⟨fun _ _ _ => rfl, fun _ _ _ => rfl, fun _ _ => rfl⟩

theorem trans (first : event.DiffersOnly parties w w')
    (second : event.DiffersOnly parties w' later) : event.DiffersOnly parties w later where
  delegates party name apart :=
    (second.delegates party name apart).trans (first.delegates party name apart)
  numbers party name apart :=
    (second.numbers party name apart).trans (first.numbers party name apart)
  callbacks entryPoint apart :=
    (second.callbacks entryPoint apart).trans (first.callbacks entryPoint apart)

theorem mono (differs : event.DiffersOnly parties w w')
    (among : ∀ party, parties party → wider party) : event.DiffersOnly wider w w' where
  delegates party name apart := differs.delegates party name fun isOne => apart (among party isOne)
  numbers party name apart := differs.numbers party name fun isOne => apart (among party isOne)
  callbacks := differs.callbacks

theorem making : event.DiffersOnly parties w w.making :=
  ⟨fun _ _ _ => rfl, fun _ _ _ => rfl, fun _ _ => rfl⟩

theorem setDelegate {name : String} {d : Reference Party Other} (isOne : parties party)
    (isField : name = event.fieldName ∨ name = event.callbackName) :
    event.DiffersOnly parties w (w.setDelegate party name d) where
  delegates other otherName apart := by
    refine if_neg fun here => ?_
    obtain ⟨rfl, rfl⟩ := here
    rcases isField with same | same
    · exact (apart isOne).1 same
    · exact (apart isOne).2 same
  numbers _ _ _ := rfl
  callbacks _ _ := rfl

theorem setNumber {n : Int} (isOne : parties party) :
    event.DiffersOnly parties w (w.setNumber party event.countName n) where
  delegates _ _ _ := rfl
  numbers other otherName apart := by
    refine if_neg fun here => ?_
    obtain ⟨rfl, rfl⟩ := here
    exact apart isOne rfl
  callbacks _ _ := rfl

theorem give {callback : Reference Party Other} :
    event.DiffersOnly parties w (w.give event.registration callback) where
  delegates _ _ _ := rfl
  numbers _ _ _ := rfl
  callbacks _ apart := callbacksOf_give_of_ne apart.symm

theorem of_recounts (isOne : parties party) (recounts : Recounts event party w w') :
    event.DiffersOnly parties w w' where
  delegates other name apart := by
    refine recounts.delegates other name ?_
    rintro ⟨rfl, same⟩
    exact (apart isOne).1 same
  numbers other name apart := by
    refine recounts.numbers other name ?_
    rintro ⟨rfl, same⟩
    exact apart isOne same
  callbacks entryPoint _ := by rw [callbacksOf, recounts.given, callbacksOf]

end DiffersOnly

variable {effect : World Party Other → Option (World Party Other)} {value : Reference Party Other}

theorem subscribe?_differsOnly (isOne : parties party)
    (effects : ∀ w w', effect w = some w' → event.DiffersOnly parties w w')
    (ran : subscribe? event party effect value w = some w') : event.DiffersOnly parties w w' := by
  have joins : event.DiffersOnly parties w (event.joined party value w) :=
    .of_recounts isOne recounts_joined
  rcases subscribe?_iff.mp ran with ⟨-, rfl⟩ | ⟨-, -, ran⟩
  · exact .refl
  · split at ran
    · exact joins.trans (effects _ _ ran)
    · rw [ran]
      exact joins

theorem register_differsOnly : event.DiffersOnly (· = .native) w (event.register w) := by
  have sets : event.DiffersOnly (· = .native) w.making (w.making.setDelegate .native
      event.callbackName (some (.single w.made (.own .native event.raiserName)))) :=
    .setDelegate rfl (.inr rfl)
  exact (DiffersOnly.making.trans sets).trans .give

theorem unregister_differsOnly : event.DiffersOnly (· = .native) w (event.unregister w) := by
  have gives : event.DiffersOnly (· = .native) w (w.give event.registration none) := .give
  exact gives.trans (.setDelegate rfl (.inr rfl))

variable [DecidableEq Other]

theorem unsubscribe?_differsOnly (isOne : parties party)
    (effects : ∀ w w', effect w = some w' → event.DiffersOnly parties w w')
    (ran : unsubscribe? event party effect value w = some w') :
    event.DiffersOnly parties w w' := by
  cases value with
  | none =>
    obtain rfl : w = w' := by simpa [unsubscribe?] using ran
    exact .refl
  | some d =>
    have leaves : event.DiffersOnly parties w (event.lessened party (some d) w) :=
      .of_recounts isOne recounts_lessened
    rcases unsubscribe?_iff.mp ran with ⟨-, rfl⟩ | ⟨-, ran⟩
    · exact .refl
    · split at ran
      · exact leaves.trans (effects _ _ ran)
      · rw [ran]
        exact leaves

theorem changeNative?_differsOnly {change : Change}
    (ran : event.changeNative? change value w = some w') :
    event.DiffersOnly (· = .native) w w' := by
  cases change with
  | add =>
    rw [changeNative?] at ran
    refine subscribe?_differsOnly rfl (fun w w' registers => ?_) ran
    obtain rfl := Option.some.inj registers
    exact register_differsOnly
  | remove =>
    rw [changeNative?] at ran
    refine unsubscribe?_differsOnly rfl (fun w w' unregisters => ?_) ran
    obtain rfl := Option.some.inj unregisters
    exact unregister_differsOnly

theorem changeForwarding?_differsOnly {index : Nat} {change : Change}
    (ran : event.changeForwarding? index change w = some w') :
    event.DiffersOnly (· = .native) w w' := by
  rw [changeForwarding?] at ran
  exact DiffersOnly.making.trans (changeNative?_differsOnly ran)

theorem changeForwarder?_differsOnly {index : Nat} {change : Change}
    (ran : event.changeForwarder? index change value w = some w') :
    event.DiffersOnly (fun party => party = .native ∨ party = .forwarder index) w w' := by
  -- The layer below is the native one.
  have effects : ∀ w w' : World Party Other, event.changeForwarding? index change w = some w' →
      event.DiffersOnly (fun party => party = .native ∨ party = .forwarder index) w w' :=
    fun w w' ran => (changeForwarding?_differsOnly ran).mono fun _ => .inl
  cases change with
  | add =>
    rw [changeForwarder?] at ran
    exact subscribe?_differsOnly (.inr rfl) effects ran
  | remove =>
    rw [changeForwarder?] at ran
    exact unsubscribe?_differsOnly (.inr rfl) effects ran

theorem release?_differsOnly {index : Nat} (ran : event.release? index w = some w') :
    event.DiffersOnly (fun party => party = .native ∨ party = .forwarder index) w w' := by
  simp only [release?, Option.map_eq_some_iff] at ran
  obtain ⟨less, ran, rfl⟩ := ran
  exact ((changeForwarding?_differsOnly ran).mono fun _ => .inl).trans
    ((DiffersOnly.setDelegate (.inr rfl) (.inl rfl)).trans (DiffersOnly.setNumber (.inr rfl)))

end Event

end InteropGlue
