import InteropGlue.Library.Check
import InteropGlue.Proofs.Glue.EventRegistration
/-!
# Events and delegates with several handlers

The accessors of an event take any delegate: `null`, one handler, or several that are combined. An
object counts the calls that changed its handlers, not the handlers, and tells the layer below when
that count becomes one and zero. So the layer below hears of the first handler and of the last one
as long as the count is zero exactly if there is no handler.

## Main Definitions

* `AccessorCall`, `Watch` — a call of an accessor, and what is seen of an event between calls.
* `Event.Follows` — the layer below calls the object exactly if there are handlers, and was told
  once each time that they came or went.
* `Event.CountTells` — the count is zero exactly if there are no handlers.
* `Library.Always` — what holds after each call.

## Main Results

* `Event.Kept.add`, `Event.Kept.remove` — what one call does.
* `Library.follows_of_countTells`, `Library.countTells_of_follows` — the layer below hears of the
  handlers exactly as long as the count tells of them.
* `Library.registration_follows` — all runs of an event, with the delegates of one size among them.

## Design Notes

The two layers differ in what is below them: the native library has been given callbacks, and the
native object has handlers. `Event.below` is what either of them calls.
-/

namespace InteropGlue

open CSharp

/-! ### Numbers of calls -/

/-- A number that a field of 32 bits can hold. -/
structure CSharp.IsInt32 (n : Int) : Prop where
  lower : -2 ^ 31 ≤ n
  upper : n < 2 ^ 31

theorem isInt32_bmod {n : Int} : IsInt32 (n.bmod (2 ^ 32)) :=
  ⟨Int.le_bmod (by decide), Int.bmod_lt (by decide)⟩

/-- A number becomes one only from zero. -/
theorem CSharp.IsInt32.bmod_succ_eq_one_iff {n : Int} (isInt : IsInt32 n) :
    (n + 1).bmod (2 ^ 32) = 1 ↔ n = 0 := by
  obtain ⟨lower, upper⟩ := isInt
  by_cases isLast : n + 1 = 2 ^ 31
  · rw [isLast]
    constructor
    · intro isOne
      exact absurd isOne (by decide)
    · omega
  · rw [Int.bmod_eq_of_le (by omega) (by omega)]
    omega

/-! ### What is seen of an event -/

/-- A call of an accessor of an event. -/
structure AccessorCall (Other : Type) where
  change : Change
  value : Reference Party Other

/-- The handlers that a call can add to a field. -/
def AccessorCall.brings {Other : Type} (call : AccessorCall Other) : List (Handler Party Other) :=
  match call.change with
  | .add => Multicast.handlersOf call.value
  | .remove => []

/-- A world, and how often the field of an event has become something else than `null` by then, and
`null` again. -/
structure Watch (Other : Type) where
  world : World Party Other
  rises : Nat
  falls : Nat

/-- Nothing has happened. -/
def Watch.start {Other : Type} : Watch Other := ⟨World.start, 0, 0⟩

namespace Event

variable {Other : Type} (event : Event) (party : Party) (w : World Party Other)

/-! ### The layer below -/

/-- The method of an object that passes an event on. -/
def own : Handler Party Other :=
  match party with
  | .native => .own .native event.raiserName
  | .forwarder _ => .own party event.forwarderName

/-- What the layer below an object calls for an event: the native library the callback it was last
given, the native object its handlers. -/
def below : List (Handler Party Other) :=
  match party with
  | .native => Multicast.handlersOf (callbacksOf event.registration w).getLast?.join
  | .forwarder _ => w.handlers .native event.fieldName

/-- How often the native library has been given a callback of an event. -/
def registrations : Nat := (callbacksOf event.registration w).countP (·.isSome)

/-- How often the native library has been given `null` for an event. -/
def unregistrations : Nat := (callbacksOf event.registration w).countP (·.isNone)

/-- The field of an event before a call, seen along with the world after it. -/
def observe (s : Watch Other) : Watch Other :=
  let before := s.world.delegates party event.fieldName
  let after := w.delegates party event.fieldName
  { world := w
    rises := s.rises + if before = none ∧ after ≠ none then 1 else 0
    falls := s.falls + if before ≠ none ∧ after = none then 1 else 0 }

/-- The layer below follows the field of an event: it calls the object exactly if the field is not
`null`, and the native library was told once for each time that the field became so, or `null`. -/
structure Follows (s : Watch Other) : Prop where
  linked : event.below party s.world =
    if s.world.delegates party event.fieldName = none then [] else [event.own party]
  registered : event.registrations s.world = s.rises
  unregistered : event.unregistrations s.world = s.falls

/-- The count of an object is zero exactly if it has no handlers. -/
def CountTells (s : Watch Other) : Prop :=
  s.world.numbers party event.countName = 0 ↔ s.world.delegates party event.fieldName = none

/-- An object counts its handlers in groups of one size. -/
def CountsBy (size : Nat) (s : Watch Other) : Prop :=
  ∃ n : Nat, s.world.numbers party event.countName = n ∧
    (s.world.handlers party event.fieldName).length = size * n ∧ (size = 0 → n = 0)

/-- The layer below an object is itself in step. -/
def Ready : Prop :=
  match party with
  | .native => True
  | .forwarder _ => event.NativeInStep w

variable {event party w} {w' : World Party Other}

theorem follows_start : event.Follows party (Watch.start : Watch Other) := by
  constructor
  · cases party <;> rfl
  · rfl
  · rfl

theorem countTells_start : event.CountTells party (Watch.start : Watch Other) :=
  ⟨fun _ => rfl, fun _ => rfl⟩

theorem countsBy_start {size : Nat} : event.CountsBy party size (Watch.start : Watch Other) :=
  ⟨0, rfl, rfl, fun _ => rfl⟩

/-- A count of groups tells whether there are any handlers. -/
theorem CountsBy.countTells {size : Nat} {s : Watch Other} (counts : event.CountsBy party size s) :
    event.CountTells party s := by
  obtain ⟨n, count, length, none⟩ := counts
  rw [CountTells, count, ← Multicast.handlersOf_eq_nil_iff, ← World.handlers,
    ← List.length_eq_zero_iff, length, Nat.mul_eq_zero]
  constructor
  · intro isZero
    exact .inr (by exact_mod_cast isZero)
  · rintro (isNone | isZero)
    · exact_mod_cast none isNone
    · exact_mod_cast isZero

theorem ready_start [DecidableEq Other] : event.Ready party (World.start : World Party Other) := by
  cases party with
  | native => trivial
  | forwarder index => exact (@InStep.start Other event _).native

/-- Neither a rise nor a fall is seen. -/
theorem observe_eq {s : Watch Other} (both : w.delegates party event.fieldName = none ↔
    s.world.delegates party event.fieldName = none) :
    event.observe party w s = { s with world := w } := by
  simp [observe, both]

/-- The own fields of an object are not those of the layer below. -/
theorem below_of_recounts (recounts : Recounts event party w w') :
    event.below party w' = event.below party w := by
  cases party with
  | native => simp only [below, callbacksOf, recounts.given]
  | forwarder index =>
    simp only [below, World.handlers]
    rw [recounts.delegates _ _ (by simp)]

theorem Ready.of_recounts (ready : event.Ready party w) (recounts : Recounts event party w w') :
    event.Ready party w' := by
  cases party with
  | native => trivial
  | forwarder index =>
    exact NativeInStep.of_eq ready (recounts.delegates _ _ (by simp))
      (recounts.numbers _ _ (by simp)) (recounts.delegates _ _ (by simp))
      (by rw [callbacksOf, recounts.given, callbacksOf])

/-! ### What the layer below is told -/

/-- The layer below was told once, of the first handler or of the last one. -/
structure Told (event : Event) (party : Party) (change : Change) (w w' : World Party Other) :
    Prop where
  ready : event.Ready party w'
  linked : event.below party w' = if change = .remove then [] else [event.own party]
  callbacks : ∃ callback, callbacksOf event.registration w' =
    callbacksOf event.registration w ++ [callback] ∧ (callback = none ↔ change = .remove)
  field : w'.delegates party event.fieldName = w.delegates party event.fieldName
  count : w'.numbers party event.countName = w.numbers party event.countName

/-- Handlers come or go without a word to the layer below. It still follows the field if there are
as few or as many kinds of handlers as before: none, or some. -/
theorem Follows.recounts_iff {s : Watch Other} (follows : event.Follows party s)
    (recounts : Recounts event party s.world w') :
    event.Follows party (event.observe party w' s) ↔
      (w'.delegates party event.fieldName = none ↔
        s.world.delegates party event.fieldName = none) := by
  have callbacks : callbacksOf event.registration w' = callbacksOf event.registration s.world := by
    rw [callbacksOf, recounts.given, callbacksOf]
  constructor
  · intro after
    have linked : event.below party w' =
        if w'.delegates party event.fieldName = none then [] else [event.own party] := after.linked
    rw [below_of_recounts recounts, follows.linked] at linked
    by_cases before : s.world.delegates party event.fieldName = none <;>
      by_cases now : w'.delegates party event.fieldName = none <;> simp_all
  · intro both
    rw [observe_eq both]
    refine ⟨?_, ?_, ?_⟩
    · simp only [below_of_recounts recounts, follows.linked, both]
    · rw [registrations, callbacks, ← follows.registered, registrations]
    · rw [unregistrations, callbacks, ← follows.unregistered, unregistrations]

/-- Handlers come or go, and the layer below is told. It still follows the field if it was told the
truth. -/
theorem Follows.told_iff {s : Watch Other} {change : Change} {mid : World Party Other}
    (follows : event.Follows party s) (recounts : Recounts event party s.world mid)
    (told : event.Told party change mid w')
    (turns : s.world.delegates party event.fieldName = none ↔ change = .add) :
    event.Follows party (event.observe party w' s) ↔
      (w'.delegates party event.fieldName = none ↔ change = .remove) := by
  obtain ⟨callback, callbacks, isNull⟩ := told.callbacks
  have callbacks : callbacksOf event.registration w' =
      callbacksOf event.registration s.world ++ [callback] := by
    rw [callbacks, callbacksOf, recounts.given, callbacksOf]
  constructor
  · intro after
    have linked : event.below party w' =
        if w'.delegates party event.fieldName = none then [] else [event.own party] := after.linked
    rw [told.linked] at linked
    by_cases now : w'.delegates party event.fieldName = none <;>
      by_cases removes : change = .remove <;> simp_all
  · intro both
    have registered : event.registrations w' =
        s.rises + if change = .remove then 0 else 1 := by
      rw [registrations, callbacks, List.countP_append, ← registrations, follows.registered,
        List.countP_singleton]
      simp only [← isNull]
      cases callback <;> rfl
    have unregistered : event.unregistrations w' =
        s.falls + if change = .remove then 1 else 0 := by
      rw [unregistrations, callbacks, List.countP_append, ← unregistrations,
        follows.unregistered, List.countP_singleton]
      simp only [← isNull]
      cases callback <;> rfl
    refine ⟨?_, ?_, ?_⟩
    · show event.below party w' = if w'.delegates party event.fieldName = none then _ else _
      simp only [told.linked, both]
    · show event.registrations w' = _
      rw [registered]
      cases change <;> simp [observe, both, turns]
    · show event.unregistrations w' = _
      rw [unregistered]
      cases change <;> simp [observe, both, turns]

theorem callbacksOf_register : callbacksOf event.registration (event.register w) =
    callbacksOf event.registration w ++ [some (.single w.made (.own .native event.raiserName))] :=
  callbacksOf_give

theorem callbacksOf_unregister : callbacksOf event.registration (event.unregister w) =
    callbacksOf event.registration w ++ [none] :=
  callbacksOf_give

theorem delegates_register : (event.register w).delegates party event.fieldName =
    w.delegates party event.fieldName :=
  if_neg fun same => event.callbackName_ne_fieldName same.2.symm

theorem delegates_unregister : (event.unregister w).delegates party event.fieldName =
    w.delegates party event.fieldName :=
  if_neg fun same => event.callbackName_ne_fieldName same.2.symm

variable [DecidableEq Other]

/-- What an object tells the layer below. -/
def signal? (event : Event) (party : Party) (change : Change) (w : World Party Other) :
    Option (World Party Other) :=
  match party, change with
  | .native, .add => some (event.register w)
  | .native, .remove => some (event.unregister w)
  | .forwarder index, change => event.changeForwarding? index change w

theorem change?_add {value : Reference Party Other} :
    event.change? party .add value w =
      subscribe? event party (event.signal? party .add) value w := by
  cases party <;> rfl

theorem change?_remove {value : Reference Party Other} :
    event.change? party .remove value w =
      unsubscribe? event party (event.signal? party .remove) value w := by
  cases party <;> rfl

/-- The first handler of the native object registers the callback. -/
theorem NativeInStep.callbacks_add {value : Reference Party Other} {handler : Handler Party Other}
    (inStep : event.NativeInStep w) (isFirst : w.handlers .native event.fieldName = [])
    (isSingle : Multicast.handlersOf value = [handler])
    (ran : event.changeNative? .add value w = some w') :
    ∃ callback, callbacksOf event.registration w' =
      callbacksOf event.registration w ++ [some callback] := by
  rw [changeNative?] at ran
  obtain ⟨grown, -, recounts, -, ran⟩ := subscribe?_single inStep.counted isSingle ran
  rw [if_pos isFirst] at ran
  obtain rfl := Option.some.inj ran
  refine ⟨.single grown.made (.own .native event.raiserName), ?_⟩
  rw [callbacksOf_register, callbacksOf, recounts.given, callbacksOf]

/-- The only handler of the native object takes the callback back. -/
theorem NativeInStep.callbacks_remove {value : Reference Party Other}
    {handler : Handler Party Other} (inStep : event.NativeInStep w)
    (isOnly : w.handlers .native event.fieldName = [handler])
    (isSingle : Multicast.handlersOf value = [handler])
    (ran : event.changeNative? .remove value w = some w') :
    w'.handlers .native event.fieldName = [] ∧
      callbacksOf event.registration w' = callbacksOf event.registration w ++ [none] := by
  rw [changeNative?] at ran
  rcases unsubscribe?_single inStep.counted isSingle ran with
    ⟨notThere, -⟩ | ⟨less, -, recounts, perm, ran⟩
  · simp [isOnly] at notThere
  have isEmpty : less.handlers .native event.fieldName = [] := by
    have lengths := perm.length_eq
    rw [isOnly, List.length_cons, List.length_cons] at lengths
    exact List.eq_nil_of_length_eq_zero (by simpa using lengths.symm)
  rw [if_pos isEmpty] at ran
  obtain rfl := Option.some.inj ran
  rw [handlers_unregister, callbacksOf_unregister, callbacksOf, recounts.given, callbacksOf]
  exact ⟨isEmpty, rfl⟩

/-- An object that the layer below does not call yet joins it. -/
theorem Ready.told_add (ready : event.Ready party w) (unlinked : event.below party w = [])
    (ran : event.signal? party .add w = some w') :
    event.Told party .add w w' := by
  cases party with
  | native =>
    obtain rfl := Option.some.inj ran
    exact
      { ready := trivial
        linked := by simp [below, callbacksOf_register, own]
        callbacks := ⟨_, callbacksOf_register, by simp⟩
        field := delegates_register
        count := rfl }
  | forwarder index =>
    have differs := changeForwarding?_differsOnly ran
    rw [signal?, changeForwarding?] at ran
    have making := NativeInStep.making ready
    obtain ⟨inStep, handlers⟩ := making.add rfl ran
    obtain ⟨callback, callbacks⟩ := making.callbacks_add unlinked rfl ran
    exact
      { ready := inStep
        linked := by
          rw [below, handlers]
          exact congrArg (· ++ _) unlinked
        callbacks := ⟨some callback, callbacks, by simp⟩
        field := differs.delegates _ _ (by simp)
        count := differs.numbers _ _ (by simp) }

/-- An object that the layer below calls leaves it. -/
theorem Ready.told_remove (ready : event.Ready party w)
    (linked : event.below party w = [event.own party])
    (ran : event.signal? party .remove w = some w') : event.Told party .remove w w' := by
  cases party with
  | native =>
    obtain rfl := Option.some.inj ran
    exact
      { ready := trivial
        linked := by simp [below, callbacksOf_unregister]
        callbacks := ⟨none, callbacksOf_unregister, by simp⟩
        field := delegates_unregister
        count := rfl }
  | forwarder index =>
    have differs := changeForwarding?_differsOnly ran
    rw [signal?, changeForwarding?] at ran
    have making := NativeInStep.making ready
    obtain ⟨inStep, -⟩ := making.remove rfl ran
    obtain ⟨isEmpty, callbacks⟩ := making.callbacks_remove linked rfl ran
    exact
      { ready := inStep
        linked := isEmpty
        callbacks := ⟨none, callbacks, by simp⟩
        field := differs.delegates _ _ (by simp)
        count := differs.numbers _ _ (by simp) }

/-! ### One call -/

variable {s : Watch Other} {mid : World Party Other} {value : Reference Party Other}
  {change : Change}

/-- An event between two calls, seen from outside. -/
structure Kept (event : Event) (party : Party) (s : Watch Other) : Prop where
  ready : event.Ready party s.world
  follows : event.Follows party s
  isInt : IsInt32 (s.world.numbers party event.countName)

theorem kept_start : event.Kept party (Watch.start : Watch Other) :=
  ⟨ready_start, follows_start, by show IsInt32 0; constructor <;> decide⟩

/-- Handlers come or go, and the layer below is told or not. -/
theorem Kept.settle {told : Prop} [Decidable told] (kept : event.Kept party s)
    (recounts : Recounts event party s.world mid)
    (turns : told → (s.world.delegates party event.fieldName = none ↔ change = .add))
    (ran : if told then event.signal? party change mid = some w' else w' = mid) :
    event.Ready party w' ∧
      w'.delegates party event.fieldName = mid.delegates party event.fieldName ∧
      w'.numbers party event.countName = mid.numbers party event.countName ∧
      (event.Follows party (event.observe party w' s) ↔
        (mid.delegates party event.fieldName = none ↔
          if told then change = .remove else s.world.delegates party event.fieldName = none)) := by
  have ready := kept.ready.of_recounts recounts
  split at ran
  · rename_i isTold
    have tells : event.Told party change mid w' := by
      have linked : event.below party mid = if change = .add then [] else [event.own party] := by
        simp only [below_of_recounts recounts, kept.follows.linked, turns isTold]
      cases change with
      | add => exact ready.told_add linked ran
      | remove => exact ready.told_remove linked ran
    refine ⟨tells.ready, tells.field, tells.count, ?_⟩
    rw [kept.follows.told_iff recounts tells (turns isTold), tells.field, if_pos isTold]
  · rename_i notTold
    rw [ran, if_neg notTold]
    exact ⟨ready, rfl, rfl, kept.follows.recounts_iff recounts⟩

/-- Handlers have come to an event that was kept. -/
structure Joins (event : Event) (party : Party) (value : Reference Party Other) (s : Watch Other)
    (w' : World Party Other) : Prop where
  notNull : value ≠ none
  kept : event.Kept party (event.observe party w' s)
  field : w'.delegates party event.fieldName ≠ none
  handlers : w'.handlers party event.fieldName =
    s.world.handlers party event.fieldName ++ Multicast.handlersOf value
  room : (w'.handlers party event.fieldName).length ≤ maxLength
  count : w'.numbers party event.countName =
    (s.world.numbers party event.countName + 1).bmod (2 ^ 32)

/-- Handlers have gone from an event that was kept. The layer below still follows if the count still
tells. -/
structure Leaves (event : Event) (party : Party) (value : Reference Party Other) (s : Watch Other)
    (w' : World Party Other) : Prop where
  notNull : value ≠ none
  ready : event.Ready party w'
  field : s.world.delegates party event.fieldName ≠ none
  handlers : (s.world.handlers party event.fieldName).Perm
    (Multicast.handlersOf value ++ w'.handlers party event.fieldName)
  count : w'.numbers party event.countName =
    (s.world.numbers party event.countName + -1).bmod (2 ^ 32)
  follows_iff : event.Follows party (event.observe party w' s) ↔
    event.CountTells party (event.observe party w' s)

/-- A delegate is added. -/
theorem Kept.add (kept : event.Kept party s) (tells : event.CountTells party s)
    (ran : event.change? party .add value s.world = some w') :
    w' = s.world ∨ event.Joins party value s w' := by
  rw [change?_add] at ran
  rcases subscribe?_iff.mp ran with ⟨-, unchanged⟩ | ⟨isThere, room, ran⟩
  · exact .inl unchanged
  have handlers : (event.joined party value s.world).handlers party event.fieldName =
      s.world.handlers party event.fieldName ++ Multicast.handlersOf value := handlers_joined
  have field : (event.joined party value s.world).delegates party event.fieldName ≠ none := by
    intro isNull
    rw [World.handlers, isNull] at handlers
    simp [isThere] at handlers
  have count : (event.joined party value s.world).numbers party event.countName =
      (s.world.numbers party event.countName + 1).bmod (2 ^ 32) := if_pos ⟨rfl, rfl⟩
  -- The count becomes one exactly if there was no handler.
  have isFirst : (event.joined party value s.world).numbers party event.countName = 1 ↔
      s.world.delegates party event.fieldName = none := by
    rw [count, kept.isInt.bmod_succ_eq_one_iff]
    exact tells
  obtain ⟨ready, sameField, sameCount, follows_iff⟩ := kept.settle recounts_joined
    (fun isOne => iff_of_true (isFirst.mp isOne) rfl) ran
  have sameHandlers : w'.handlers party event.fieldName =
      s.world.handlers party event.fieldName ++ Multicast.handlersOf value := by
    rw [World.handlers, sameField, ← World.handlers, handlers]
  right
  exact
    { notNull := isThere
      kept :=
        { ready := ready
          follows := by
            refine follows_iff.mpr (iff_of_false field ?_)
            split
            · decide
            · rename_i notOne
              exact isFirst.not.mp notOne
          isInt := by
            show IsInt32 (w'.numbers party event.countName)
            rw [sameCount, count]
            exact isInt32_bmod }
      field := by rw [sameField]; exact field
      handlers := sameHandlers
      room := by
        rw [sameHandlers, List.length_append]
        exact room
      count := by rw [sameCount, count] }

/-- A delegate is removed. -/
theorem Kept.remove (kept : event.Kept party s)
    (ran : event.change? party .remove value s.world = some w') :
    w' = s.world ∨ event.Leaves party value s w' := by
  rw [change?_remove] at ran
  cases value with
  | none =>
    left
    simpa [unsubscribe?, eq_comm] using ran
  | some d =>
  rcases unsubscribe?_iff.mp ran with ⟨-, unchanged⟩ | ⟨isThere, ran⟩
  · exact .inl unchanged
  have field : s.world.delegates party event.fieldName ≠ none := by
    intro isNull
    rw [World.handlers, isNull] at isThere
    exact d.nonempty (List.infix_nil.mp isThere)
  have perm : (s.world.handlers party event.fieldName).Perm
      (d.handlers ++ (event.lessened party (some d) s.world).handlers party event.fieldName) := by
    simpa [Event.lessened, World.handlers] using
      @Multicast.handlersOf_removed_perm _ _ s.world.made _ _ isThere
  have count : (event.lessened party (some d) s.world).numbers party event.countName =
      (s.world.numbers party event.countName + -1).bmod (2 ^ 32) := by
    rw [Event.lessened, World.numbers_count, if_pos ⟨rfl, rfl⟩, World.numbers_remove]
  have isLast : (event.lessened party (some d) s.world).numbers party event.countName = 0 →
      (s.world.delegates party event.fieldName = none ↔ Change.remove = .add) :=
    fun _ => iff_of_false field (by decide)
  obtain ⟨ready, sameField, sameCount, follows_iff⟩ := kept.settle recounts_lessened isLast ran
  right
  exact
    { notNull := Option.some_ne_none d
      ready := ready
      field := field
      handlers := by
        rw [Multicast.handlersOf_some, World.handlers, World.handlers, sameField]
        exact perm
      count := by rw [sameCount, count]
      follows_iff := by
        rw [follows_iff]
        show _ ↔
          (w'.numbers party event.countName = 0 ↔ w'.delegates party event.fieldName = none)
        rw [sameField, sameCount]
        split
        · rename_i isZero
          simp [isZero]
        · rename_i notZero
          simp [notZero, field] }

/-- An event stays as it should be between two calls while the count tells. -/
theorem Kept.next (kept : event.Kept party s) (tells : event.CountTells party s)
    (ran : event.change? party change value s.world = some w')
    (tellsNext : event.CountTells party (event.observe party w' s)) :
    event.Kept party (event.observe party w' s) := by
  have unchanged : w' = s.world → event.Kept party (event.observe party w' s) := by
    intro same
    rw [same, observe_eq Iff.rfl]
    exact kept
  cases change with
  | add =>
    rcases kept.add tells ran with same | joins
    · exact unchanged same
    · exact joins.kept
  | remove =>
    rcases kept.remove ran with same | leaves
    · exact unchanged same
    · refine ⟨leaves.ready, leaves.follows_iff.mpr tellsNext, ?_⟩
      show IsInt32 (w'.numbers party event.countName)
      rw [leaves.count]
      exact isInt32_bmod

/-! ### Room -/

/-- The layer below gets at most one handler more. -/
theorem length_signal?_le {o : Party} (ran : event.signal? party change w = some w') :
    (w'.handlers o event.fieldName).length ≤ (w.handlers o event.fieldName).length +
      if o = party then 0 else change.growth := by
  cases party with
  | native =>
    cases change with
    | add =>
      obtain rfl := Option.some.inj ran
      rw [handlers_register]
      exact Nat.le_add_right _ _
    | remove =>
      obtain rfl := Option.some.inj ran
      rw [handlers_unregister]
      exact Nat.le_add_right _ _
  | forwarder index =>
    refine Nat.le_trans (changeForwarding?_length ran) (Nat.add_le_add_left ?_ _)
    cases o <;> simp

/-- A call adds to no field of an event more handlers than it brings. -/
theorem length_change?_le {call : AccessorCall Other} {o : Party}
    (ran : event.change? party call.change call.value w = some w') :
    (w'.handlers o event.fieldName).length ≤
      (w.handlers o event.fieldName).length + call.brings.length := by
  obtain ⟨change, value⟩ := call
  cases value with
  | none =>
    obtain rfl := Option.some.inj (event.change?_null.symm.trans ran)
    exact Nat.le_add_right _ _
  | some d =>
    cases change with
    | add =>
      have notEmpty : 0 < d.handlers.length := List.length_pos_iff.mpr d.nonempty
      have joins : ((event.joined party (some d) w).handlers o event.fieldName).length ≤
          (w.handlers o event.fieldName).length + if o = party then d.handlers.length else 0 :=
        length_joined_le
      simp only [change?_add] at ran
      simp only [AccessorCall.brings, Multicast.handlersOf_some]
      rcases subscribe?_iff.mp ran with ⟨isNull, -⟩ | ⟨-, -, ran⟩
      · cases isNull
      split at ran
      · have passed : (w'.handlers o event.fieldName).length ≤
            ((event.joined party (some d) w).handlers o event.fieldName).length +
              if o = party then 0 else 1 := length_signal?_le ran
        -- The object and the layer below it are two objects.
        by_cases isOwn : o = party
        · rw [if_pos isOwn] at joins passed
          omega
        · rw [if_neg isOwn] at joins passed
          omega
      · rw [ran]
        exact Nat.le_trans joins (by split <;> omega)
    | remove =>
      have leaves : ((event.lessened party (some d) w).handlers o event.fieldName).length ≤
          (w.handlers o event.fieldName).length := length_lessened_le
      simp only [change?_remove] at ran
      refine Nat.le_trans ?_ (Nat.le_add_right _ _)
      rcases unsubscribe?_iff.mp ran with ⟨-, rfl⟩ | ⟨-, ran⟩
      · exact Nat.le_refl _
      split at ran
      · refine Nat.le_trans (length_signal?_le ran) ?_
        simpa [Change.growth] using leaves
      · rw [ran]
        exact leaves

/-- A call ends that does not bring too many handlers. -/
theorem change?_exists {call : AccessorCall Other}
    (room : ∀ o, (w.handlers o event.fieldName).length + call.brings.length ≤ maxLength) :
    ∃ w', event.change? party call.change call.value w = some w' := by
  obtain ⟨change, value⟩ := call
  cases value with
  | none => exact ⟨w, event.change?_null⟩
  | some d =>
    cases change with
    | add =>
      have notEmpty : 0 < d.handlers.length := List.length_pos_iff.mpr d.nonempty
      simp only [AccessorCall.brings, Multicast.handlersOf_some] at room
      simp only [change?_add]
      refine subscribe?_exists (room party) ?_
      cases party with
      | native => exact ⟨_, rfl⟩
      | forwarder index =>
        refine changeForwarding?_exists ?_
        rw [World.handlers, recounts_joined.delegates _ _ (by simp), ← World.handlers]
        have := room .native
        omega
    | remove =>
      simp only [change?_remove]
      refine unsubscribe?_exists ?_
      cases party with
      | native => exact ⟨_, rfl⟩
      | forwarder index =>
        simp only [signal?, changeForwarding?, changeNative?]
        exact unsubscribe?_exists ⟨_, rfl⟩

end Event

/-! ### Runs -/

namespace Library

variable {Other : Type} [DecidableEq Other] (lib : Library) (names : ClassNames) (target : Target)
  (event : Event) (party : Party)

/-- What is seen of an event after one more call of an accessor. -/
def watch? (s : Watch Other) (call : AccessorCall Other) : Option (Watch Other) :=
  ((lib.eventObjects names target).access party event.name call.change call.value s.world).map
    fun w => event.observe party w s

/-- What is seen of an event after calls from the start on. -/
def watchAll? (calls : List (AccessorCall Other)) : Option (Watch Other) :=
  calls.foldlM (lib.watch? names target event party) Watch.start

/-- A property holds at the start and after each of some calls. -/
def Always (P : Watch Other → Prop) (calls : List (AccessorCall Other)) : Prop :=
  ∀ before s, before <+: calls → lib.watchAll? names target event party before = some s → P s

variable {lib names target event party} {calls : List (AccessorCall Other)}
  {call : AccessorCall Other} {s : Watch Other} {P : Watch Other → Prop}

theorem Always.mono {before : List (AccessorCall Other)}
    (always : lib.Always names target event party P calls) (isBefore : before <+: calls) :
    lib.Always names target event party P before :=
  fun first s isFirst ran => always first s (isFirst.trans isBefore) ran

theorem Always.earlier (always : lib.Always names target event party P (calls ++ [call])) :
    lib.Always names target event party P calls :=
  always.mono (List.prefix_append _ _)

theorem Always.last (always : lib.Always names target event party P calls)
    (ran : lib.watchAll? names target event party calls = some s) : P s :=
  always calls s List.prefix_rfl ran

theorem watch?_eq (isEvent : event ∈ lib.events) :
    lib.watch? names target event party = fun (s : Watch Other) (call : AccessorCall Other) =>
      (event.change? party call.change call.value s.world).map
        fun w => event.observe party w s := by
  funext s call
  rw [watch?, access_event isEvent]

/-- The last of several calls. -/
theorem watchAll?_snoc_iff (isEvent : event ∈ lib.events) :
    lib.watchAll? names target event party (calls ++ [call]) = some s ↔
      ∃ before w, lib.watchAll? names target event party calls = some before ∧
        event.change? party call.change call.value before.world = some w ∧
        event.observe party w before = s := by
  rw [watchAll?, List.foldlM_append, ← watchAll?]
  simp only [List.foldlM_cons, List.foldlM_nil, Option.bind_eq_bind, Option.bind_eq_some_iff,
    watch?_eq isEvent, Option.map_eq_some_iff, Option.pure_def, Option.some.injEq]
  constructor
  · rintro ⟨before, ran, _, ⟨w, changed, rfl⟩, rfl⟩
    exact ⟨before, w, ran, changed, rfl⟩
  · rintro ⟨before, w, ran, changed, rfl⟩
    exact ⟨before, ran, _, ⟨w, changed, rfl⟩, rfl⟩

theorem kept_of_countTells (isEvent : event ∈ lib.events)
    (tells : lib.Always names target event party (event.CountTells party) calls)
    (ran : lib.watchAll? names target event party calls = some s) : event.Kept party s := by
  -- The last call comes off first: what is known of all prefixes is known of the rest.
  induction calls using List.reverseRecOn generalizing s with
  | nil =>
    obtain rfl := Option.some.inj ran
    exact Event.kept_start
  | append_singleton calls call ih =>
    have tellsLast := tells.last ran
    obtain ⟨before, w, earlier, changed, rfl⟩ := (watchAll?_snoc_iff isEvent).mp ran
    exact (ih tells.earlier earlier).next (tells.earlier.last earlier) changed tellsLast

/-- The layer below follows as long as the count tells. -/
theorem follows_of_countTells (isEvent : event ∈ lib.events)
    (tells : lib.Always names target event party (event.CountTells party) calls) :
    lib.Always names target event party (event.Follows party) calls := by
  intro before s isBefore ran
  exact (kept_of_countTells isEvent (tells.mono isBefore) ran).follows

/-- The count tells, and has not come further than the calls, as long as the layer below
follows. -/
theorem kept_of_follows (isEvent : event ∈ lib.events) (few : calls.length < 2 ^ 31)
    (follows : lib.Always names target event party (event.Follows party) calls)
    (ran : lib.watchAll? names target event party calls = some s) :
    event.Kept party s ∧ event.CountTells party s ∧
      0 ≤ s.world.numbers party event.countName ∧
      s.world.numbers party event.countName ≤ calls.length := by
  induction calls using List.reverseRecOn generalizing s with
  | nil =>
    obtain rfl := Option.some.inj ran
    exact ⟨Event.kept_start, Event.countTells_start, Int.le_refl 0, Int.le_refl 0⟩
  | append_singleton calls call ih =>
    have followsLast := follows.last ran
    obtain ⟨before, w, earlier, changed, rfl⟩ := (watchAll?_snoc_iff isEvent).mp ran
    rw [List.length_append, List.length_singleton] at few ⊢
    obtain ⟨kept, tells, nonneg, bounded⟩ := ih (by omega) follows.earlier earlier
    have unchanged : w = before.world →
        event.Kept party (event.observe party w before) ∧
          event.CountTells party (event.observe party w before) ∧
          0 ≤ w.numbers party event.countName ∧
          w.numbers party event.countName ≤ (calls.length + 1 : Nat) := by
      intro same
      rw [same, Event.observe_eq Iff.rfl]
      exact ⟨kept, tells, nonneg, by omega⟩
    obtain ⟨change, value⟩ := call
    cases change with
    | add =>
      rcases kept.add tells changed with same | joins
      · exact unchanged same
      have count := joins.count
      rw [Int.bmod_eq_of_le (by omega) (by omega)] at count
      refine ⟨joins.kept, iff_of_false ?_ joins.field, ?_, ?_⟩
      · show w.numbers party event.countName ≠ 0
        omega
      · show 0 ≤ w.numbers party event.countName
        omega
      · show w.numbers party event.countName ≤ (calls.length + 1 : Nat)
        omega
    | remove =>
      rcases kept.remove changed with same | leaves
      · exact unchanged same
      -- There was a handler, so the count was not zero.
      have notZero : before.world.numbers party event.countName ≠ 0 := tells.not.mpr leaves.field
      have count := leaves.count
      rw [Int.bmod_eq_of_le (by omega) (by omega)] at count
      refine ⟨⟨leaves.ready, followsLast, ?_⟩, leaves.follows_iff.mp followsLast, ?_, ?_⟩
      · show IsInt32 (w.numbers party event.countName)
        exact ⟨by omega, by omega⟩
      · show 0 ≤ w.numbers party event.countName
        omega
      · show w.numbers party event.countName ≤ (calls.length + 1 : Nat)
        omega

/-- The count tells as long as the layer below follows. -/
theorem countTells_of_follows (isEvent : event ∈ lib.events) (few : calls.length < 2 ^ 31)
    (follows : lib.Always names target event party (event.Follows party) calls) :
    lib.Always names target event party (event.CountTells party) calls := by
  intro before s isBefore ran
  have fewer : before.length < 2 ^ 31 := Nat.lt_of_le_of_lt isBefore.length_le few
  exact (kept_of_follows isEvent fewer (follows.mono isBefore) ran).2.1

/-- Delegates of one size are counted. -/
theorem countsBy_of_size (isEvent : event ∈ lib.events) {size : Nat}
    (sizes : ∀ call ∈ calls, call.value ≠ none →
      (Multicast.handlersOf call.value).length = size)
    (ran : lib.watchAll? names target event party calls = some s) :
    event.Kept party s ∧ event.CountsBy party size s := by
  induction calls using List.reverseRecOn generalizing s with
  | nil =>
    obtain rfl := Option.some.inj ran
    exact ⟨Event.kept_start, Event.countsBy_start⟩
  | append_singleton calls call ih =>
    obtain ⟨before, w, earlier, changed, rfl⟩ := (watchAll?_snoc_iff isEvent).mp ran
    obtain ⟨kept, counts⟩ := ih
      (fun call inFront => sizes call (List.mem_append_left _ inFront)) earlier
    have isSized := sizes call (List.mem_append_right _ (List.mem_singleton_self call))
    suffices counted : event.CountsBy party size (event.observe party w before) from
      ⟨kept.next counts.countTells changed counted.countTells, counted⟩
    have unchanged : w = before.world →
        event.CountsBy party size (event.observe party w before) := by
      intro same
      rw [same, Event.observe_eq Iff.rfl]
      exact counts
    have tells := counts.countTells
    obtain ⟨n, numbered, length, -⟩ := counts
    obtain ⟨change, value⟩ := call
    have positive : value ≠ none → 0 < size := by
      intro isThere
      rw [← isSized isThere]
      exact List.length_pos_iff.mpr (Multicast.handlersOf_eq_nil_iff.not.mpr isThere)
    cases change with
    | add =>
      rcases kept.add tells changed with same | joins
      · exact unchanged same
      have positive : 0 < size := positive joins.notNull
      have grown : (w.handlers party event.fieldName).length = size * (n + 1) := by
        rw [joins.handlers, List.length_append, length, isSized joins.notNull, Nat.mul_succ]
      have few : n + 1 ≤ maxLength := by
        have room := joins.room
        rw [grown] at room
        exact Nat.le_trans (Nat.le_mul_of_pos_left _ positive) room
      refine ⟨n + 1, ?_, grown, by omega⟩
      show w.numbers party event.countName = _
      rw [joins.count, numbered]
      exact bmod_of_le few
    | remove =>
      rcases kept.remove changed with same | leaves
      · exact unchanged same
      have positive : 0 < size := positive leaves.notNull
      have shrunk : size * n = size + (w.handlers party event.fieldName).length := by
        rw [← length, leaves.handlers.length_eq, List.length_append, isSized leaves.notNull]
      obtain ⟨m, rfl⟩ : ∃ m, n = m + 1 := by
        refine Nat.exists_eq_succ_of_ne_zero ?_
        rintro rfl
        omega
      have upper := kept.isInt.upper
      refine ⟨m, ?_, ?_, by omega⟩
      · show w.numbers party event.countName = _
        rw [leaves.count, numbered, Int.bmod_eq_of_le (by omega) (by omega)]
        omega
      · show (w.handlers party event.fieldName).length = _
        rw [Nat.mul_succ] at shrunk
        omega

/-- Calls end that do not bring too many handlers. -/
theorem watchAll?_exists (isEvent : event ∈ lib.events)
    (room : (calls.flatMap AccessorCall.brings).length ≤ maxLength) :
    ∃ s, lib.watchAll? names target event party calls = some s ∧
      ∀ o, (s.world.handlers o event.fieldName).length ≤
        (calls.flatMap AccessorCall.brings).length := by
  induction calls using List.reverseRecOn with
  | nil => exact ⟨Watch.start, rfl, fun _ => Nat.le_refl 0⟩
  | append_singleton calls call ih =>
    rw [List.flatMap_append, List.length_append, List.flatMap_singleton] at room ⊢
    obtain ⟨before, earlier, few⟩ := ih (by omega)
    obtain ⟨w, changed⟩ : ∃ w,
        event.change? party call.change call.value before.world = some w :=
      Event.change?_exists fun o => Nat.le_trans (Nat.add_le_add_right (few o) _) room
    refine ⟨event.observe party w before,
      (watchAll?_snoc_iff isEvent).mpr ⟨before, w, earlier, changed, rfl⟩, fun o => ?_⟩
    exact Nat.le_trans (Event.length_change?_le changed) (Nat.add_le_add_right (few o) _)

end Library

/-- Any delegates are added to an event of the native object or of a forwarder around it, and
removed from it. The layer below hears of the handlers after each call as long as the count tells of
them, and only so long if there are not too many calls. It always does if the delegates that are not
`null` have as many handlers each as the others. All calls end that do not bring more handlers than
a field can hold. -/
theorem Library.registration_follows {Other : Type} [DecidableEq Other] {lib : Library}
    {names : ClassNames} {target : Target} {event : Event} (isEvent : event ∈ lib.events)
    (party : Party) (calls : List (AccessorCall Other)) :
    (lib.Always names target event party (event.CountTells party) calls →
      lib.Always names target event party (event.Follows party) calls) ∧
    (calls.length < 2 ^ 31 →
      lib.Always names target event party (event.Follows party) calls →
        lib.Always names target event party (event.CountTells party) calls) ∧
    (∀ size, (∀ call ∈ calls, call.value ≠ none →
        (Multicast.handlersOf call.value).length = size) →
      lib.Always names target event party (event.Follows party) calls) ∧
    ((calls.flatMap AccessorCall.brings).length ≤ maxLength →
      ∃ s, lib.watchAll? names target event party calls = some s) := by
  refine ⟨follows_of_countTells isEvent, countTells_of_follows isEvent, fun size sizes => ?_,
    fun room => ?_⟩
  · intro before s isBefore ran
    have sizesBefore : ∀ call ∈ before, call.value ≠ none →
        (Multicast.handlersOf call.value).length = size :=
      fun call inBefore => sizes call (isBefore.subset inBefore)
    exact (countsBy_of_size isEvent sizesBefore ran).1.follows
  · obtain ⟨s, ran, -⟩ := watchAll?_exists isEvent room
    exact ⟨s, ran⟩

namespace Sample

/-- A delegate of two handlers. -/
def pair : Multicast (Handler Party Nat) := ⟨0, [.other 7, .other 8], nofun⟩

/-- Two handlers come and go together. -/
def pairing : List (AccessorCall Nat) :=
  [⟨.add, some pair⟩, ⟨.add, some pair⟩, ⟨.remove, some pair⟩, ⟨.remove, none⟩]

/-- The native event follows the handlers of a forwarder that come in pairs. -/
theorem pairing_follows :
    focusGained ∈ listening.events ∧
      ∃ s, listening.watchAll? ⟨"Access"⟩ .modern focusGained (.forwarder 0) pairing = some s ∧
        focusGained.Follows (.forwarder 0) s := by
  have isEvent : focusGained ∈ listening.events := List.mem_cons_self
  obtain ⟨-, -, sized, ends⟩ := @Library.registration_follows Nat _ listening ⟨"Access"⟩ .modern
    focusGained isEvent (.forwarder 0) pairing
  obtain ⟨s, ran⟩ := ends (by decide)
  exact ⟨isEvent, s, ran, (sized 2 (by simp [pairing, pair])).last ran⟩

/-- Two handlers come together, and one of them goes. -/
def splitting : List (AccessorCall Nat) :=
  [⟨.add, some pair⟩, ⟨.remove, some (.single 1 (.other 7))⟩]

/-- One handler of a pair goes, and the native library loses the callback for the other one. -/
theorem splitting_unregisters :
    listening.Accepted ∧ focusGained ∈ listening.events ∧
      ∃ s, listening.watchAll? ⟨"Access"⟩ .modern focusGained .native splitting = some s ∧
        s.world.handlers .native focusGained.fieldName = [.other 8] ∧
        focusGained.below .native s.world = [] ∧ s.falls = 0 ∧
        focusGained.unregistrations s.world = 1 ∧ ¬ focusGained.Follows .native s := by
  have accepted : listening.Accepted := by
    show listening.defects = []
    rfl
  have isEvent : focusGained ∈ listening.events := List.mem_cons_self
  have seen : (listening.watchAll? ⟨"Access"⟩ .modern focusGained .native splitting).map
      (fun s => (s.world.handlers .native focusGained.fieldName,
        focusGained.below .native s.world, s.falls, focusGained.unregistrations s.world)) =
      some ([.other 8], [], 0, 1) := by
    rw [Library.watchAll?, Library.watch?_eq isEvent]
    decide +kernel
  obtain ⟨s, ran, seen⟩ := Option.map_eq_some_iff.mp seen
  simp only [Prod.mk.injEq] at seen
  obtain ⟨handlers, below, falls, told⟩ := seen
  refine ⟨accepted, isEvent, s, ran, handlers, below, falls, told, fun follows => ?_⟩
  have unregistered := follows.unregistered
  rw [told, falls] at unregistered
  cases unregistered

end Sample

end InteropGlue
