import InteropGlue.Proofs.Glue.EventProgress
/-!
# Registration of events

An event of the native object and of any number of forwarders, after any operations: all objects
count their handlers, a forwarder stands among the native handlers once as long as it has handlers
itself, and the native library is given the callback and `null` in turn, the callback last exactly
if there are native handlers.

## Main Definitions

* `Event.InStep` — the invariant of both layers.
* `Library.Alone` — the private fields of an event have names of their own.
* `Event.Tracked` — what holds of an event between operations.

## Main Results

* `Event.InStep.perform` — an operation keeps an event in step.
* `Library.operations_tracked` — events are tracked after any operations.

## Design Notes

A forwarder changes its own count before it turns to the native event, so the invariant is broken
between the two. `Event.NativeInStep.recountForwarder` says what is left of it there.
-/

namespace InteropGlue

open CSharp

namespace Event

variable {Other : Type} {event : Event} {w w' : World Party Other} {parties : Party → Prop}
  {index : Nat} {value : Reference Party Other} {handler : Handler Party Other} {change : Change}

/-- A native change leaves the forwarders alone. -/
theorem counted_of_differsOnly (counted : Counted event (.forwarder index) w)
    (differs : event.DiffersOnly (· = .native) w w') :
    Counted event (.forwarder index) w' ∧
      w'.handlers (.forwarder index) event.fieldName =
        w.handlers (.forwarder index) event.fieldName := by
  have delegates : w'.delegates (.forwarder index) event.fieldName =
      w.delegates (.forwarder index) event.fieldName := differs.delegates _ _ nofun
  exact ⟨counted.of_eq delegates (differs.numbers (.forwarder index) _ nofun),
    by rw [World.handlers, delegates, World.handlers]⟩

theorem NativeInStep.making (inStep : event.NativeInStep w) : event.NativeInStep w.making :=
  inStep.of_eq rfl rfl rfl rfl

/-! ### Both layers -/

variable [DecidableEq Other]

/-- How often a forwarder handles the native event. -/
def forwardings (event : Event) (w : World Party Other) (index : Nat) : Nat :=
  (w.handlers .native event.fieldName).count (.own (.forwarder index) event.forwarderName)

/-- An event is in step: all objects count their handlers, the native library holds a callback
exactly if there are any native ones, and a forwarder is among those, once, exactly if it has
handlers itself. -/
structure InStep (event : Event) (w : World Party Other) : Prop where
  native : event.NativeInStep w
  counted : ∀ index, Counted event (.forwarder index) w
  forwards : ∀ index, event.forwardings w index =
    if w.handlers (.forwarder index) event.fieldName = [] then 0 else 1

namespace NativeInStep

/-- A forwarder joins the native handlers. -/
theorem join (inStep : event.NativeInStep w)
    (ran : event.changeForwarding? index .add w = some w') :
    event.NativeInStep w' ∧ ∀ other,
      event.forwardings w' other = event.forwardings w other + if other = index then 1 else 0 := by
  obtain ⟨inStep, handlers⟩ := inStep.making.add rfl ran
  refine ⟨inStep, fun other => ?_⟩
  rw [forwardings, handlers, List.count_append, List.count_singleton]
  simp only [forwardings, beq_iff_eq, Handler.own.injEq, Party.forwarder.injEq, and_true,
    eq_comm (a := index)]
  rfl

/-- A forwarder leaves the native handlers. -/
theorem leave (inStep : event.NativeInStep w)
    (ran : event.changeForwarding? index .remove w = some w') :
    event.NativeInStep w' ∧ ∀ other,
      event.forwardings w' other = event.forwardings w other - if other = index then 1 else 0 := by
  obtain ⟨inStep, counts⟩ := inStep.making.remove rfl ran
  refine ⟨inStep, fun other => ?_⟩
  rw [forwardings, counts]
  simp only [Handler.own.injEq, Party.forwarder.injEq, and_true]
  rfl

end NativeInStep

/-- A forwarder that recounts its handlers leaves the native event and other forwarders alone. -/
theorem NativeInStep.recountForwarder (inStep : event.NativeInStep w)
    (counted : ∀ other, Counted event (.forwarder other) w)
    (recounted : Counted event (.forwarder index) w')
    (recounts : Recounts event (.forwarder index) w w') :
    event.NativeInStep w' ∧ event.forwardings w' = event.forwardings w ∧
      ∀ other, Counted event (.forwarder other) w' ∧
        (other ≠ index → w'.handlers (.forwarder other) event.fieldName =
          w.handlers (.forwarder other) event.fieldName) := by
  have native : ∀ name, w'.delegates .native name = w.delegates .native name :=
    fun name => recounts.delegates _ _ (by simp)
  refine ⟨inStep.of_eq (native _) (recounts.numbers _ _ (by simp)) (native _)
    (by rw [callbacksOf, recounts.given, callbacksOf]), ?_, fun other => ?_⟩
  · funext other
    rw [forwardings, World.handlers, native, ← World.handlers, forwardings]
  · have delegates : other ≠ index → w'.delegates (.forwarder other) event.fieldName =
        w.delegates (.forwarder other) event.fieldName := fun isOther =>
      recounts.delegates _ _ (by simp [isOther])
    refine ⟨?_, fun isOther => by rw [World.handlers, delegates isOther, World.handlers]⟩
    by_cases same : other = index
    · rw [same]
      exact recounted
    · exact (counted other).of_eq (delegates same) (recounts.numbers _ _ (by simp [same]))

/-- The private fields of two events have different names. -/
def Apart (event other : Event) : Prop :=
  ∀ name ∈ [event.fieldName, event.callbackName, event.countName],
    name ∉ [other.fieldName, other.callbackName, other.countName]

namespace InStep

theorem start : event.InStep (World.start : World Party Other) where
  native :=
    { counted := ⟨rfl, Nat.zero_le _⟩
      registered := ⟨fun _ => rfl, fun _ => rfl⟩
      current := rfl
      alternates := fun _ _ found => by simp [callbacksOf, World.start] at found }
  counted _ := ⟨rfl, Nat.zero_le _⟩
  forwards _ := rfl

/-- What an event does not use can change. -/
theorem of_eq (inStep : event.InStep w)
    (delegates : ∀ party, w'.delegates party event.fieldName = w.delegates party event.fieldName)
    (numbers : ∀ party, w'.numbers party event.countName = w.numbers party event.countName)
    (callback : w'.delegates .native event.callbackName = w.delegates .native event.callbackName)
    (callbacks : callbacksOf event.registration w' = callbacksOf event.registration w) :
    event.InStep w' := by
  have handlers : ∀ party, w'.handlers party event.fieldName = w.handlers party event.fieldName :=
    fun party => by rw [World.handlers, delegates, World.handlers]
  exact
    { native := inStep.native.of_eq (delegates _) (numbers _) callback callbacks
      counted := fun index => (inStep.counted index).of_eq (delegates _) (numbers _)
      forwards := fun index => by
        rw [forwardings, handlers, handlers, ← inStep.forwards, forwardings] }

/-- What happens to other events leaves an event in step. -/
theorem of_differsOnly {other : Event} (inStep : event.InStep w) (apart : event.Apart other)
    (otherName : other.name ≠ event.name) (differs : other.DiffersOnly parties w w') :
    event.InStep w' := by
  simp only [Apart, List.mem_cons, List.not_mem_nil, or_false, forall_eq_or_imp, forall_eq,
    not_or] at apart
  obtain ⟨⟨fieldField, fieldCallback, -⟩, ⟨callbackField, callbackCallback, -⟩, -, -, countCount⟩ :=
    apart
  have isOtherEntry : event.registration ≠ other.registration := by
    simp only [registration, ne_eq, String.append_right_inj]
    exact otherName.symm
  exact inStep.of_eq (fun _ => differs.delegates _ _ fun _ => ⟨fieldField, fieldCallback⟩)
    (fun _ => differs.numbers _ _ fun _ => countCount)
    (differs.delegates _ _ fun _ => ⟨callbackField, callbackCallback⟩)
    (differs.callbacks _ isOtherEntry)

/-- Others add handlers to a native event and remove them. -/
theorem changeNative (inStep : event.InStep w) {other : Other}
    (isSingle : Multicast.handlersOf value = [.other other])
    (ran : event.changeNative? change value w = some w') : event.InStep w' := by
  have forwarders index :=
    counted_of_differsOnly (inStep.counted index) (changeNative?_differsOnly ran)
  have native : event.NativeInStep w' ∧
      ∀ index, event.forwardings w' index = event.forwardings w index := by
    cases change with
    | add =>
      obtain ⟨native, handlers⟩ := inStep.native.add isSingle ran
      exact ⟨native, fun index => by simp [forwardings, handlers]⟩
    | remove =>
      obtain ⟨native, counts⟩ := inStep.native.remove isSingle ran
      exact ⟨native, fun index => by simp [forwardings, counts]⟩
  exact
    { native := native.1
      counted := fun index => (forwarders index).1
      forwards := fun index => by rw [native.2, (forwarders index).2, inStep.forwards] }

/-- An event is in step again when a change has come to its end at one forwarder. -/
theorem settle (inStep : event.InStep w) (index : Nat) (native : event.NativeInStep w')
    (counted : ∀ other, Counted event (.forwarder other) w')
    (others : ∀ other, other ≠ index → event.forwardings w' other = event.forwardings w other ∧
      w'.handlers (.forwarder other) event.fieldName =
        w.handlers (.forwarder other) event.fieldName)
    (own : event.forwardings w' index =
      if w'.handlers (.forwarder index) event.fieldName = [] then 0 else 1) :
    event.InStep w' := by
  refine ⟨native, counted, fun other => ?_⟩
  by_cases same : other = index
  · rw [same, own]
  · rw [(others other same).1, (others other same).2, inStep.forwards]

/-- A handler is added to an event of a forwarder. -/
theorem addForwarder (inStep : event.InStep w) (isSingle : Multicast.handlersOf value = [handler])
    (ran : event.changeForwarder? index .add value w = some w') : event.InStep w' := by
  rw [changeForwarder?] at ran
  obtain ⟨grown, recounted, recounts, handlers, ran⟩ :=
    subscribe?_single (inStep.counted index) isSingle ran
  obtain ⟨native, sameForwardings, forwarders⟩ :=
    inStep.native.recountForwarder inStep.counted recounted recounts
  split at ran
  · rename_i isFirst
    -- The forwarder was not among the native handlers, and joins them.
    obtain ⟨joined, counts⟩ := native.join ran
    have after other :=
      counted_of_differsOnly (forwarders other).1 (changeForwarding?_differsOnly ran)
    refine inStep.settle index joined (fun other => (after other).1) (fun other isOther =>
      ⟨by simp [counts, sameForwardings, isOther], by
        rw [(after other).2, (forwarders other).2 isOther]⟩) ?_
    rw [counts, sameForwardings, inStep.forwards, (after index).2, handlers]
    simp [isFirst]
  · rename_i notFirst
    obtain rfl := ran
    refine inStep.settle index native (fun other => (forwarders other).1) (fun other isOther =>
      ⟨by rw [sameForwardings], (forwarders other).2 isOther⟩) ?_
    rw [sameForwardings, inStep.forwards, handlers]
    simp [notFirst]

/-- A handler is removed from an event of a forwarder. -/
theorem removeForwarder (inStep : event.InStep w)
    (isSingle : Multicast.handlersOf value = [handler])
    (ran : event.changeForwarder? index .remove value w = some w') : event.InStep w' := by
  rw [changeForwarder?] at ran
  rcases unsubscribe?_single (inStep.counted index) isSingle ran with
    ⟨-, rfl⟩ | ⟨less, recounted, recounts, perm, ran⟩
  · exact inStep
  have notEmpty : w.handlers (.forwarder index) event.fieldName ≠ [] := by
    intro isEmpty
    rw [isEmpty] at perm
    exact absurd perm.length_eq (by simp)
  obtain ⟨native, sameForwardings, forwarders⟩ :=
    inStep.native.recountForwarder inStep.counted recounted recounts
  split at ran
  · rename_i isLast
    -- The forwarder was among the native handlers once, and leaves them.
    obtain ⟨left, counts⟩ := native.leave ran
    have after other :=
      counted_of_differsOnly (forwarders other).1 (changeForwarding?_differsOnly ran)
    refine inStep.settle index left (fun other => (after other).1) (fun other isOther =>
      ⟨by simp [counts, sameForwardings, isOther], by
        rw [(after other).2, (forwarders other).2 isOther]⟩) ?_
    rw [counts, sameForwardings, inStep.forwards, (after index).2]
    simp [isLast, notEmpty]
  · rename_i notLast
    obtain rfl := ran
    refine inStep.settle index native (fun other => (forwarders other).1) (fun other isOther =>
      ⟨by rw [sameForwardings], (forwarders other).2 isOther⟩) ?_
    rw [sameForwardings, inStep.forwards]
    simp [notLast, notEmpty]

/-- A forwarder drops its handlers and leaves the native event. -/
theorem release (inStep : event.InStep w) (ran : event.release? index w = some w') :
    event.InStep w' := by
  simp only [release?, Option.map_eq_some_iff] at ran
  obtain ⟨less, ran, rfl⟩ := ran
  obtain ⟨left, counts⟩ := inStep.native.leave ran
  have forwarders other :=
    counted_of_differsOnly (inStep.counted other) (changeForwarding?_differsOnly ran)
  set after := (less.setDelegate (.forwarder index) event.fieldName none).setNumber
    (.forwarder index) event.countName 0 with isAfter
  have handlers : after.handlers (.forwarder index) event.fieldName = [] := by
    simp [isAfter, World.handlers]
  have recounted : Counted event (.forwarder index) after :=
    ⟨by rw [handlers]; simp [isAfter], by rw [handlers]; exact Nat.zero_le _⟩
  have recounts : Recounts event (.forwarder index) less after :=
    ⟨fun o n outside => if_neg outside, fun o n outside => if_neg outside, rfl⟩
  obtain ⟨native, sameForwardings, dropped⟩ :=
    left.recountForwarder (fun other => (forwarders other).1) recounted recounts
  refine inStep.settle index native (fun other => (dropped other).1) (fun other isOther =>
    ⟨by simp [sameForwardings, counts, isOther], by
      rw [(dropped other).2 isOther, (forwarders other).2]⟩) ?_
  -- It leaves the native handlers whether it was among them or not.
  rw [sameForwardings, counts, inStep.forwards, handlers]
  split <;> simp

end InStep

end Event

/-! ### Runs -/

namespace Library

variable (lib : Library) (names : ClassNames) (target : Target)

/-- The private fields of an event share no name with another member of their class. -/
structure Alone (event : Event) : Prop where
  native : ∀ name ∈ [event.fieldName, event.callbackName, event.countName],
    ((lib.nativeEventsClass names target).members.map Member.name).count name = 1
  forwarding : ∀ name ∈ [event.fieldName, event.countName],
    ((lib.forwarderClass names target).members.map Member.name).count name = 1

variable {lib names target} {event : Event}

/-- Two members of a list that give rise to the same value do so twice. -/
theorem two_le_count_flatMap {α β : Type} [DecidableEq β] {f : α → List β} {xs : List α} {x y : α}
    {b : β} (hasX : x ∈ xs) (hasY : y ∈ xs) (distinct : x ≠ y) (fromX : b ∈ f x) (fromY : b ∈ f y) :
    2 ≤ (xs.flatMap f).count b := by
  induction xs with
  | nil => simp at hasX
  | cons z zs ih =>
    rw [List.flatMap_cons, List.count_append]
    rcases List.mem_cons.mp hasX with rfl | xInRest <;>
      rcases List.mem_cons.mp hasY with rfl | yInRest
    · exact absurd rfl distinct
    · have here := List.count_pos_iff.mpr fromX
      have later := List.count_pos_iff.mpr (List.mem_flatMap.mpr ⟨y, yInRest, fromY⟩)
      omega
    · have here := List.count_pos_iff.mpr fromY
      have later := List.count_pos_iff.mpr (List.mem_flatMap.mpr ⟨x, xInRest, fromX⟩)
      omega
    · exact Nat.le_add_left_of_le (ih xInRest yInRest)

/-- An event that is alone shares no field with another one. -/
theorem Alone.apart (alone : lib.Alone names target event) (isEvent : event ∈ lib.events)
    {other : Event} (isOther : other ∈ lib.events) (distinct : other ≠ event) :
    event.Apart other := by
  intro name isOwn isTheirs
  have once := alone.native name isOwn
  rw [members_nativeEventsClass] at once
  simp only [List.map_append, List.count_append, List.map_flatMap] at once
  have twice := two_le_count_flatMap
    (f := fun event : Event => event.nativeFields.map Member.name) isEvent isOther distinct.symm
    (b := name) (by simpa [Event.nativeFields, Event.privateField, Member.name] using isOwn)
    (by simpa [Event.nativeFields, Event.privateField, Member.name] using isTheirs)
  omega

/-- An event that is alone is the only one of its name. -/
theorem Alone.eq_of_name (alone : lib.Alone names target event) (isEvent : event ∈ lib.events)
    {other : Event} (isOther : other ∈ lib.events) (otherName : other.name = event.name) :
    other = event := by
  by_contra distinct
  have sameField : other.fieldName = event.fieldName := by
    rw [Event.fieldName, otherName, Event.fieldName]
  refine alone.apart isEvent isOther distinct event.fieldName List.mem_cons_self ?_
  rw [← sameField]
  exact List.mem_cons_self

end Library

namespace Event.InStep

variable {Other : Type} [DecidableEq Other] {lib : Library} {names : ClassNames} {target : Target}
  {event other : Event} {w w' : World Party Other}

/-- A change of any event leaves an event that is alone in step. -/
theorem change (inStep : event.InStep w) (alone : lib.Alone names target event)
    (isEvent : event ∈ lib.events) (isOther : other ∈ lib.events) {party : Party} {change : Change}
    {value : Option (Subscriber Other)}
    (ran : other.change? party change (Subscriber.reference value) w = some w') :
    event.InStep w' := by
  by_cases same : other = event
  · rw [same] at ran
    cases value with
    | none =>
      obtain rfl : w = w' := Option.some.inj (event.change?_null.symm.trans ran)
      exact inStep
    | some subscriber =>
      have isSingle : Multicast.handlersOf (Subscriber.reference (some subscriber)) =
          [Handler.other subscriber.handler] := rfl
      cases party with
      | native => exact inStep.changeNative isSingle ran
      | forwarder index =>
        cases change with
        | add => exact inStep.addForwarder isSingle ran
        | remove => exact inStep.removeForwarder isSingle ran
  · have otherName : other.name ≠ event.name := fun sameName =>
      same (alone.eq_of_name isEvent isOther sameName)
    have apart := alone.apart isEvent isOther same
    cases party with
    | native => exact inStep.of_differsOnly apart otherName (changeNative?_differsOnly ran)
    | forwarder index =>
      exact inStep.of_differsOnly apart otherName (changeForwarder?_differsOnly ran)

/-- A forwarder that ends leaves an event that is alone in step. -/
theorem releases (inStep : event.InStep w) (alone : lib.Alone names target event)
    (isEvent : event ∈ lib.events) {index : Nat} {events : List Event}
    (areEvents : ∀ other ∈ events, other ∈ lib.events)
    (ran : events.foldlM (fun w other => other.release? index w) w = some w') :
    event.InStep w' := by
  induction events generalizing w with
  | nil =>
    obtain rfl := Option.some.inj ran
    exact inStep
  | cons other events ih =>
    rw [List.foldlM_cons, Option.bind_eq_bind, Option.bind_eq_some_iff] at ran
    obtain ⟨less, released, ran⟩ := ran
    have inStep : event.InStep less := by
      by_cases same : other = event
      · rw [same] at released
        exact inStep.release released
      · have isOther := areEvents other List.mem_cons_self
        have otherName : other.name ≠ event.name := fun sameName =>
          same (alone.eq_of_name isEvent isOther sameName)
        exact inStep.of_differsOnly (alone.apart isEvent isOther same) otherName
          (release?_differsOnly released)
    exact ih inStep (fun other inRest => areEvents other (List.mem_cons_of_mem _ inRest)) ran

/-- An operation leaves an event that is alone in step. -/
theorem perform (inStep : event.InStep w) (alone : lib.Alone names target event)
    (isEvent : event ∈ lib.events) {operation : Operation Other}
    (ran : lib.perform? names target w operation = some w') : event.InStep w' := by
  cases operation with
  | change party name change value =>
    obtain ⟨bodies, found⟩ := Assembly.exists_of_access ran
    obtain ⟨other, isOther, rfl⟩ := Library.exists_event_of_event? found
    rw [Library.perform?, Library.access_event isOther] at ran
    exact inStep.change alone isEvent isOther ran
  | dispose index =>
    rw [Library.perform?, Library.invoke_dispose] at ran
    exact inStep.releases alone isEvent (fun _ => id) ran

/-- Operations leave an event that is alone in step. -/
theorem performAll (inStep : event.InStep w) (alone : lib.Alone names target event)
    (isEvent : event ∈ lib.events) {operations : List (Operation Other)}
    (ran : operations.foldlM (lib.perform? names target) w = some w') : event.InStep w' := by
  induction operations generalizing w with
  | nil =>
    obtain rfl := Option.some.inj ran
    exact inStep
  | cons operation operations ih =>
    rw [List.foldlM_cons, Option.bind_eq_bind, Option.bind_eq_some_iff] at ran
    obtain ⟨next, first, ran⟩ := ran
    exact ih (inStep.perform alone isEvent first) ran

end Event.InStep

namespace Event

variable {Other : Type} [DecidableEq Other] {event : Event} {w : World Party Other}

/-- What holds of an event between any two operations. -/
structure Tracked (event : Event) (w : World Party Other) : Prop where
  /-- The count of an object is the number of its handlers. -/
  counts : ∀ party, w.numbers party event.countName = (w.handlers party event.fieldName).length
  /-- A forwarder handles the native event once if it has handlers itself, and else not at all. -/
  forwards : ∀ index, (w.handlers .native event.fieldName).count
      (.own (.forwarder index) event.forwarderName) =
    if w.handlers (.forwarder index) event.fieldName = [] then 0 else 1
  /-- The callback is kept as long as there are native handlers. -/
  kept : w.delegates .native event.callbackName ≠ none ↔ w.handlers .native event.fieldName ≠ []
  /-- The native library has last been given a callback if there are native handlers. -/
  registered : (∃ callback, (callbacksOf event.registration w).getLast? = some (some callback)) ↔
    w.handlers .native event.fieldName ≠ []
  /-- The native library has last been given `null`, or nothing yet, if there are none. -/
  unregistered : (callbacksOf event.registration w).getLast? = some none ∨
      (callbacksOf event.registration w).getLast? = none ↔
    w.handlers .native event.fieldName = []
  alternates : Alternates (callbacksOf event.registration w)

theorem InStep.tracked (inStep : event.InStep w) : event.Tracked w where
  counts party := by
    cases party with
    | native => exact inStep.native.counted.same
    | forwarder index => exact (inStep.counted index).same
  forwards := inStep.forwards
  kept := inStep.native.registered.not
  registered := by
    rw [ne_eq, ← inStep.native.registered, inStep.native.current]
    rcases (callbacksOf event.registration w).getLast? with _ | _ | callback <;> simp
  unregistered := by
    rw [← inStep.native.registered, inStep.native.current]
    rcases (callbacksOf event.registration w).getLast? with _ | _ | callback <;> simp
  alternates := inStep.native.alternates

/-- A removal of a handler that is not there changes nothing. -/
theorem change?_of_notMem {party : Party} {subscriber : Subscriber Other}
    (notThere : .other subscriber.handler ∉ w.handlers party event.fieldName) :
    event.change? party .remove (Subscriber.reference (some subscriber)) w = some w := by
  cases party with
  | native =>
    rw [change?, changeNative?]
    exact unsubscribe?_of_notMem rfl notThere
  | forwarder index =>
    rw [change?, changeForwarder?]
    exact unsubscribe?_of_notMem rfl notThere

end Event

namespace Sample

/-- An event about a component. -/
def focusGained : Event :=
  { name := "FocusGained"
    handler :=
      { name := "FocusGainedEventHandler"
        returnType := .named "void"
        params :=
          [⟨"vmid", .named "int", .input, none⟩, ⟨"source", .named handleType, .input, none⟩]
        returnMarshal := none } }

/-- A library with two events. -/
def listening : Library :=
  { Library.empty with
    events := [focusGained, { focusGained with name := "FocusLost" }] }

theorem focusGained_alone : listening.Alone ⟨"Access"⟩ .modern focusGained := by
  constructor <;> decide +kernel

/-- Two forwarders and others handle the event, and the first forwarder ends. -/
def handling : List (Operation Nat) :=
  [.change (.forwarder 0) "FocusGained" .add (some ⟨0, 7⟩),
    .change .native "FocusGained" .add (some ⟨1, 8⟩),
    .change (.forwarder 1) "FocusGained" .add (some ⟨2, 9⟩),
    .change (.forwarder 0) "FocusGained" .add (some ⟨0, 7⟩),
    .change (.forwarder 1) "FocusGained" .remove (some ⟨3, 7⟩),
    .change .native "FocusLost" .add (some ⟨1, 8⟩),
    .dispose 0,
    .change .native "FocusGained" .remove (some ⟨1, 8⟩)]

example :
    ((focusGained.change? (.forwarder 0) .add (some (.single 0 (.other 7))) World.start).map
      fun w : World Party Nat =>
        (w.handlers .native "_focusGained", w.numbers (.forwarder 0) "_focusGainedSubscribers")) =
      some ([.own (.forwarder 0) "ForwardFocusGained"], 1) := by
  decide +kernel

end Sample

end InteropGlue
