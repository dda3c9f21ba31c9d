import InteropGlue.Proofs.Glue.EventAccessors
/-!
# Layers of events

Each layer counts its handlers, and hears of the first and the last one only through the count. As
long as handlers come and go one by one, the count is their number, and the layer below hears of
them at the right time.

## Main Definitions

* `Counted` — the count of an object is the number of its handlers.
* `Recounts` — a world differs only in the handlers of an event of one object.
* `Event.NativeInStep` — the native library holds the callback exactly if there are handlers.

## Main Results

* `subscribe?_iff`, `unsubscribe?_iff` — all that can come of a change of one layer.
* `subscribe?_single`, `unsubscribe?_single` — the layer below hears of the first handler and of the
  last one.
* `Event.NativeInStep.add`, `Event.NativeInStep.remove` — single handlers keep the native layer in
  step.
-/

namespace InteropGlue

open CSharp

/-! ### One layer -/

section Layer

variable {Object Other : Type} {event : Event} {object : Object} {w w' : World Object Other}

/-- Numbers of handlers do not wrap. -/
theorem bmod_of_le {n : Nat} (bounded : n ≤ maxLength) : (n : Int).bmod (2 ^ 32) = n := by
  rw [maxLength] at bounded
  exact Int.bmod_eq_of_le (by omega) (by omega)

/-- The number of handlers that an object counts for an event is the number it has. -/
structure Counted (event : Event) (object : Object) (w : World Object Other) : Prop where
  same : w.numbers object event.countName = (w.handlers object event.fieldName).length
  bounded : (w.handlers object event.fieldName).length ≤ maxLength

/-- What an event does not use can change. -/
theorem Counted.of_eq (counted : Counted event object w)
    (delegates : w'.delegates object event.fieldName = w.delegates object event.fieldName)
    (numbers : w'.numbers object event.countName = w.numbers object event.countName) :
    Counted event object w' := by
  have handlers : w'.handlers object event.fieldName = w.handlers object event.fieldName := by
    rw [World.handlers, delegates, World.handlers]
  exact ⟨by rw [numbers, handlers, counted.same], by rw [handlers]; exact counted.bounded⟩

/-- A world differs from another only in the handlers of an event of an object and their number. -/
structure Recounts (event : Event) (object : Object) (w w' : World Object Other) : Prop where
  delegates : ∀ o n, ¬ (o = object ∧ n = event.fieldName) → w'.delegates o n = w.delegates o n
  numbers : ∀ o n, ¬ (o = object ∧ n = event.countName) → w'.numbers o n = w.numbers o n
  given : w'.given = w.given

variable [DecidableEq Object]

/-- A handler joined to those of an event, and counted. -/
def Event.joined (event : Event) (object : Object) (value : Reference Object Other)
    (w : World Object Other) : World Object Other :=
  (w.making.setDelegate object event.fieldName
    (Multicast.combined w.made (w.delegates object event.fieldName) value)).count object
      event.countName 1

theorem recounts_joined {value : Reference Object Other} :
    Recounts event object w (event.joined object value w) :=
  ⟨fun _ _ outside => if_neg outside, fun _ _ outside => if_neg outside, rfl⟩

theorem handlers_joined {value : Reference Object Other} :
    (event.joined object value w).handlers object event.fieldName =
      w.handlers object event.fieldName ++ Multicast.handlersOf value := by
  simp [Event.joined, World.handlers]

variable {effect : World Object Other → Option (World Object Other)}
  {value : Reference Object Other}

/-- When a handler is added, and what comes of it. -/
theorem subscribe?_iff :
    subscribe? event object effect value w = some w' ↔
      value = none ∧ w' = w ∨
      value ≠ none ∧
        (w.handlers object event.fieldName).length + (Multicast.handlersOf value).length ≤
          maxLength ∧
        if (event.joined object value w).numbers object event.countName = 1 then
          effect (event.joined object value w) = some w'
        else w' = event.joined object value w := by
  rw [subscribe?]
  split
  · rename_i isNull
    simp [isNull, eq_comm]
  · rename_i isThere
    simp only [Option.bind_eq_bind, Option.bind_eq_some_iff, World.combine?_iff, isThere, false_and,
      false_or, ne_eq, not_false_eq_true, true_and]
    constructor
    · rintro ⟨more, ⟨room, rfl⟩, ran⟩
      refine ⟨room, ?_⟩
      split at ran
      · exact (if_pos ‹_›).mpr ran
      · exact (if_neg ‹_›).mpr (Option.some.inj ran).symm
    · rintro ⟨room, ran⟩
      refine ⟨_, ⟨room, rfl⟩, ?_⟩
      split at ran
      · exact (if_pos ‹_›).trans ran
      · exact (if_neg ‹_›).trans (congrArg some ran.symm)

/-- A handler of an object that is added alone is counted. -/
theorem Counted.joined (counted : Counted event object w) {handler : Handler Object Other}
    (isSingle : Multicast.handlersOf value = [handler])
    (room : (w.handlers object event.fieldName).length + (Multicast.handlersOf value).length ≤
      maxLength) :
    Counted event object (event.joined object value w) := by
  have bounded : ((event.joined object value w).handlers object event.fieldName).length ≤
      maxLength := by
    rw [handlers_joined, List.length_append]
    exact room
  refine ⟨?_, bounded⟩
  -- The count before was right, so one more is, as long as it does not wrap.
  rw [← bmod_of_le bounded, handlers_joined, isSingle, Event.joined, World.numbers_count,
    if_pos ⟨rfl, rfl⟩]
  simp [counted.same]

/-- A handler that is added alone comes last, and the layer below hears of the first one. -/
theorem subscribe?_single (counted : Counted event object w) {handler : Handler Object Other}
    (isSingle : Multicast.handlersOf value = [handler])
    (ran : subscribe? event object effect value w = some w') :
    ∃ grown, Counted event object grown ∧ Recounts event object w grown ∧
      grown.handlers object event.fieldName = w.handlers object event.fieldName ++ [handler] ∧
      if w.handlers object event.fieldName = [] then effect grown = some w' else w' = grown := by
  rcases subscribe?_iff.mp ran with ⟨rfl, -⟩ | ⟨-, room, ran⟩
  · cases isSingle
  have joined := counted.joined isSingle room
  have handlers : (event.joined object value w).handlers object event.fieldName =
      w.handlers object event.fieldName ++ [handler] := by
    rw [handlers_joined, isSingle]
  refine ⟨_, joined, recounts_joined, handlers, ?_⟩
  -- The count is one exactly if there was no handler before.
  rw [joined.same, handlers, List.length_append, List.length_singleton] at ran
  split
  · simpa [‹w.handlers object event.fieldName = []›] using ran
  · rename_i isThere
    have isSecond : ((w.handlers object event.fieldName).length + 1 : Nat) ≠ (1 : Int) := by
      have := List.length_pos_iff.mpr isThere
      omega
    rwa [if_neg isSecond] at ran

variable [DecidableEq Other]

/-- Handlers left out of those of an event, and counted as one. -/
def Event.lessened (event : Event) (object : Object) (value : Reference Object Other)
    (w : World Object Other) : World Object Other :=
  (w.remove object event.fieldName value).count object event.countName (-1)

theorem recounts_lessened : Recounts event object w (event.lessened object value w) where
  delegates o n outside := by
    rw [Event.lessened, World.delegates_count, World.delegates_remove, if_neg outside]
  numbers o n outside := by
    rw [Event.lessened, World.numbers_count, if_neg outside, World.numbers_remove]
  given := by rw [Event.lessened, World.given_count, World.given_remove]

/-- When handlers are removed, and what comes of it. -/
theorem unsubscribe?_iff {d : Multicast (Handler Object Other)} :
    unsubscribe? event object effect (some d) w = some w' ↔
      ¬ d.handlers <:+: w.handlers object event.fieldName ∧ w' = w ∨
      d.handlers <:+: w.handlers object event.fieldName ∧
        if (event.lessened object (some d) w).numbers object event.countName = 0 then
          effect (event.lessened object (some d) w) = some w'
        else w' = event.lessened object (some d) w := by
  -- The accessor sees whether it removed something by comparing the delegates.
  have unchanged_iff : w.delegates object event.fieldName =
      (w.remove object event.fieldName (some d)).delegates object event.fieldName ↔
        ¬ d.handlers <:+: w.handlers object event.fieldName := by
    rw [World.delegates_remove, if_pos ⟨rfl, rfl⟩, eq_comm]
    exact Multicast.removed_eq_self_iff
  simp only [unsubscribe?, reduceCtorEq, if_false]
  by_cases found : d.handlers <:+: w.handlers object event.fieldName
  · rw [if_neg (unchanged_iff.not.mpr (not_not.mpr found))]
    simp only [found, not_true_eq_false, false_and, true_and, false_or]
    rw [← Event.lessened]
    split
    · rfl
    · rw [Option.some.injEq, eq_comm]
  · rw [if_pos (unchanged_iff.mpr found), World.remove_of_not_infix found]
    simp only [found, not_false_eq_true, true_and, false_and, or_false, Option.some.injEq]
    exact eq_comm

/-- A handler that is removed alone is counted. -/
theorem Counted.lessened (counted : Counted event object w) {handler : Handler Object Other}
    (perm : (w.handlers object event.fieldName).Perm
      (handler :: (event.lessened object value w).handlers object event.fieldName)) :
    Counted event object (event.lessened object value w) := by
  have length := perm.length_eq
  rw [List.length_cons] at length
  have bounded : ((event.lessened object value w).handlers object event.fieldName).length ≤
      maxLength := by
    have := counted.bounded
    omega
  refine ⟨?_, bounded⟩
  calc
    (event.lessened object value w).numbers object event.countName
    _ = ((w.handlers object event.fieldName).length + -1 : Int).bmod (2 ^ 32) := by
      rw [← counted.same, Event.lessened, World.numbers_count, if_pos ⟨rfl, rfl⟩,
        World.numbers_remove]
    _ = (((event.lessened object value w).handlers object event.fieldName).length : Int).bmod
        (2 ^ 32) := by
      rw [length, Int.natCast_add, Int.natCast_one, Int.add_neg_cancel_right]
    _ = _ := bmod_of_le bounded

/-- A removal of a handler that is not there changes nothing. -/
theorem unsubscribe?_of_notMem {handler : Handler Object Other}
    (isSingle : Multicast.handlersOf value = [handler])
    (notThere : handler ∉ w.handlers object event.fieldName) :
    unsubscribe? event object effect value w = some w := by
  cases value with
  | none => cases isSingle
  | some d =>
    rw [Multicast.handlersOf_some] at isSingle
    refine unsubscribe?_iff.mpr (.inl ⟨?_, rfl⟩)
    rwa [isSingle, List.singleton_infix_iff]

/-- A handler that is not there is not removed, and the layer below hears of the last one. -/
theorem unsubscribe?_single (counted : Counted event object w) {handler : Handler Object Other}
    (isSingle : Multicast.handlersOf value = [handler])
    (ran : unsubscribe? event object effect value w = some w') :
    handler ∉ w.handlers object event.fieldName ∧ w' = w ∨
      ∃ less, Counted event object less ∧ Recounts event object w less ∧
        (w.handlers object event.fieldName).Perm
          (handler :: less.handlers object event.fieldName) ∧
        if less.handlers object event.fieldName = [] then effect less = some w' else w' = less := by
  cases value with
  | none => cases isSingle
  | some d =>
    rw [Multicast.handlersOf_some] at isSingle
    rcases unsubscribe?_iff.mp ran with ⟨notThere, unchanged⟩ | ⟨isThere, ran⟩
    · rw [isSingle, List.singleton_infix_iff] at notThere
      exact .inl ⟨notThere, unchanged⟩
    have handlers : (event.lessened object (some d) w).handlers object event.fieldName =
        Multicast.handlersOf (Multicast.removed w.made (w.delegates object event.fieldName)
          (some d)) := by
      simp [Event.lessened, World.handlers]
    have perm : (w.handlers object event.fieldName).Perm
        (handler :: (event.lessened object (some d) w).handlers object event.fieldName) := by
      rw [handlers, ← List.singleton_append, ← isSingle]
      exact Multicast.handlersOf_removed_perm isThere
    have lessened := counted.lessened perm
    -- The count is zero exactly if no handler is left.
    simp only [lessened.same, Int.natCast_eq_zero, List.length_eq_zero_iff] at ran
    exact .inr ⟨_, lessened, recounts_lessened, perm, ran⟩

end Layer

/-! ### Callbacks -/

section Callbacks

variable {Other : Type} {w : World Party Other} {entryPoint : String}

/-- The callbacks that an entry point has been given, in order. -/
def callbacksOf (entryPoint : String) (w : World Party Other) : List (Reference Party Other) :=
  (w.given.filter (·.entryPoint = entryPoint)).map (·.callback)

theorem callbacksOf_give {callback : Reference Party Other} :
    callbacksOf entryPoint (w.give entryPoint callback) =
      callbacksOf entryPoint w ++ [callback] := by
  simp [callbacksOf, World.give]

theorem callbacksOf_give_of_ne {other : String} {callback : Reference Party Other}
    (isOther : other ≠ entryPoint) :
    callbacksOf entryPoint (w.give other callback) = callbacksOf entryPoint w := by
  simp [callbacksOf, World.give, isOther]

/-- A callback is given first, and then taken back and given in turn. -/
def Alternates (callbacks : List (Reference Party Other)) : Prop :=
  ∀ i callback, callbacks[i]? = some callback → (callback = none ↔ i % 2 = 1)

theorem Alternates.append {callbacks : List (Reference Party Other)}
    {callback : Reference Party Other} (alternates : Alternates callbacks)
    (next : callback = none ↔ callbacks.length % 2 = 1) : Alternates (callbacks ++ [callback]) := by
  intro i d found
  rcases Nat.lt_trichotomy i callbacks.length with earlier | rfl | later
  · rw [List.getElem?_append_left earlier] at found
    exact alternates i d found
  · simp only [List.getElem?_append_right (Nat.le_refl _), Nat.sub_self, List.getElem?_cons_zero,
      Option.some.injEq] at found
    rw [← found, next]
  · rw [List.getElem?_eq_none (by simp; omega)] at found
    cases found

end Callbacks

namespace Event

variable {Other : Type} {event : Event} {w w' : World Party Other} {value : Reference Party Other}
  {handler : Handler Party Other}

/-! ### The native layer -/

theorem callbackName_ne_fieldName (event : Event) : event.callbackName ≠ event.fieldName := by
  intro same
  have lengths := congrArg (fun name => name.toList.length) same
  simp [callbackName] at lengths

theorem handlers_register {party : Party} :
    (event.register w).handlers party event.fieldName = w.handlers party event.fieldName := by
  simp [Event.register, World.handlers, event.callbackName_ne_fieldName.symm]

theorem handlers_unregister {party : Party} :
    (event.unregister w).handlers party event.fieldName = w.handlers party event.fieldName := by
  simp [Event.unregister, World.handlers, event.callbackName_ne_fieldName.symm]

/-- The native side of an event is in step: its count is the number of its handlers, and the native
library holds a callback exactly if there are any. -/
structure NativeInStep (event : Event) (w : World Party Other) : Prop where
  counted : Counted event .native w
  registered : w.delegates .native event.callbackName = none ↔
    w.handlers .native event.fieldName = []
  current : w.delegates .native event.callbackName =
    (callbacksOf event.registration w).getLast?.join
  alternates : Alternates (callbacksOf event.registration w)

namespace NativeInStep

/-- The callbacks of an event are even in number exactly if none is held. -/
theorem even_iff (inStep : event.NativeInStep w) :
    (callbacksOf event.registration w).length % 2 = 0 ↔
      w.handlers .native event.fieldName = [] := by
  rw [← inStep.registered, inStep.current]
  rcases List.eq_nil_or_concat (callbacksOf event.registration w) with empty | ⟨before, last, same⟩
  · simp [empty]
  -- The callback held is the last one given, which its position says to be `null` or not.
  · have isLast := inStep.alternates before.length last (by rw [same]; simp)
    simp only [same, List.concat_eq_append, List.length_append, List.length_singleton,
      List.getLast?_append, List.getLast?_singleton, Option.some_or, Option.join_some, isLast]
    omega

/-- What an event does not use can change. -/
theorem of_eq (inStep : event.NativeInStep w)
    (handlers : w'.delegates .native event.fieldName = w.delegates .native event.fieldName)
    (number : w'.numbers .native event.countName = w.numbers .native event.countName)
    (callback : w'.delegates .native event.callbackName = w.delegates .native event.callbackName)
    (callbacks : callbacksOf event.registration w' = callbacksOf event.registration w) :
    event.NativeInStep w' := by
  have sameHandlers : w'.handlers .native event.fieldName = w.handlers .native event.fieldName := by
    rw [World.handlers, handlers, World.handlers]
  exact
    { counted := inStep.counted.of_eq handlers number
      registered := by rw [callback, sameHandlers, inStep.registered]
      current := by rw [callback, callbacks, inStep.current]
      alternates := by rw [callbacks]; exact inStep.alternates }

/-- A change that leaves the callback alone, where it also leaves alone whether there are
handlers. -/
theorem recount (inStep : event.NativeInStep w) (counted : Counted event .native w')
    (recounts : Recounts event .native w w')
    (both : w'.handlers .native event.fieldName = [] ↔ w.handlers .native event.fieldName = []) :
    event.NativeInStep w' := by
  have callback : w'.delegates .native event.callbackName =
      w.delegates .native event.callbackName :=
    recounts.delegates _ _ fun same => event.callbackName_ne_fieldName same.2
  have callbacks : callbacksOf event.registration w' = callbacksOf event.registration w := by
    rw [callbacksOf, recounts.given, callbacksOf]
  exact
    { counted := counted
      registered := by rw [callback, both, inStep.registered]
      current := by rw [callback, callbacks, inStep.current]
      alternates := by rw [callbacks]; exact inStep.alternates }

/-- The first handler registers the callback. -/
theorem register (inStep : event.NativeInStep w) (counted : Counted event .native w')
    (recounts : Recounts event .native w w') (before : w.handlers .native event.fieldName = [])
    (after : w'.handlers .native event.fieldName ≠ []) :
    event.NativeInStep (event.register w') := by
  have callbacks : callbacksOf event.registration (event.register w') =
      callbacksOf event.registration w ++
        [some (.single w'.made (.own .native event.raiserName))] := by
    rw [Event.register, callbacksOf_give]
    simp [callbacksOf, recounts.given]
  have even : (callbacksOf event.registration w).length % 2 = 0 := inStep.even_iff.mpr before
  exact
    { counted := counted.of_eq (if_neg fun same => event.callbackName_ne_fieldName same.2.symm) rfl
      registered := by rw [handlers_register]; simp [Event.register, after]
      current := by rw [callbacks]; simp [Event.register]
      alternates := by
        rw [callbacks]
        exact inStep.alternates.append (by simp [even]) }

/-- The last handler that is removed takes the callback back. -/
theorem unregister (inStep : event.NativeInStep w) (counted : Counted event .native w')
    (recounts : Recounts event .native w w') (before : w.handlers .native event.fieldName ≠ [])
    (after : w'.handlers .native event.fieldName = []) :
    event.NativeInStep (event.unregister w') := by
  have callbacks : callbacksOf event.registration (event.unregister w') =
      callbacksOf event.registration w ++ [none] := by
    have given : callbacksOf event.registration w' = callbacksOf event.registration w := by
      rw [callbacksOf, recounts.given, callbacksOf]
    rw [← given, ← callbacksOf_give]
    rfl
  have odd : (callbacksOf event.registration w).length % 2 = 1 := by
    have := inStep.even_iff.not.mpr before
    omega
  exact
    { counted := counted.of_eq (if_neg fun same => event.callbackName_ne_fieldName same.2.symm) rfl
      registered := by rw [handlers_unregister]; simp [Event.unregister, after]
      current := by rw [callbacks]; simp [Event.unregister]
      alternates := by
        rw [callbacks]
        exact inStep.alternates.append (by simp [odd]) }

variable [DecidableEq Other]

/-- A handler that is added comes last. -/
theorem add (inStep : event.NativeInStep w) (isSingle : Multicast.handlersOf value = [handler])
    (ran : event.changeNative? .add value w = some w') :
    event.NativeInStep w' ∧
      w'.handlers .native event.fieldName = w.handlers .native event.fieldName ++ [handler] := by
  rw [changeNative?] at ran
  obtain ⟨grown, counted, recounts, handlers, ran⟩ := subscribe?_single inStep.counted isSingle ran
  split at ran
  · rename_i isFirst
    obtain rfl := Option.some.inj ran
    rw [handlers_register]
    exact ⟨inStep.register counted recounts isFirst (by simp [handlers]), handlers⟩
  · rename_i notFirst
    obtain rfl := ran
    exact ⟨inStep.recount counted recounts (by simp [handlers, notFirst]), handlers⟩

/-- A removal takes out one handler if it is there. -/
theorem remove (inStep : event.NativeInStep w) (isSingle : Multicast.handlersOf value = [handler])
    (ran : event.changeNative? .remove value w = some w') :
    event.NativeInStep w' ∧ ∀ other, (w'.handlers .native event.fieldName).count other =
      (w.handlers .native event.fieldName).count other - if other = handler then 1 else 0 := by
  rw [changeNative?] at ran
  rcases unsubscribe?_single inStep.counted isSingle ran with
    ⟨notThere, rfl⟩ | ⟨less, counted, recounts, perm, ran⟩
  · refine ⟨inStep, fun other => ?_⟩
    split
    · rename_i isHandler
      rw [isHandler, List.count_eq_zero.mpr notThere]
    · rfl
  · have counts : ∀ other, (less.handlers .native event.fieldName).count other =
        (w.handlers .native event.fieldName).count other - if other = handler then 1 else 0 := by
      intro other
      rw [perm.count_eq, List.count_cons]
      simp only [beq_iff_eq, eq_comm (a := handler), Nat.add_sub_cancel]
    -- What is removed was there.
    have notEmpty : w.handlers .native event.fieldName ≠ [] := by
      intro isEmpty
      rw [isEmpty] at perm
      exact absurd perm.length_eq (by simp)
    split at ran
    · rename_i isLast
      obtain rfl := Option.some.inj ran
      rw [handlers_unregister]
      exact ⟨inStep.unregister counted recounts notEmpty isLast, counts⟩
    · rename_i notLast
      obtain rfl := ran
      exact ⟨inStep.recount counted recounts (by simp [notLast, notEmpty]), counts⟩

end NativeInStep

end Event

end InteropGlue
