import InteropGlue.Proofs.Glue.FunctionReturns
import InteropGlue.Proofs.Glue.Instances
/-!
# The meaning of function implementations

What a caller sees of a call: the entry point is called once, with a converted value for each
parameter that it reads, and on return each parameter that it writes holds the converted reply. The
conversions before the call take the key that the caller gave, those after it the key that the call
left.

## Main Definitions

* `Library.Passes` — what the entry point is given for a parameter.
* `Library.Leaves` — what a parameter holds on return.
* `Library.Answers` — what the caller gets as the result.

## Main Results

* `Library.run_implementation_iff` — when the body of a function ends, and what it has done then.

## Design Notes

The parameters of a function have distinct names, so the values for them are given by functions of
parameters. There is no value for a parameter that is only written.
-/

namespace InteropGlue

open CSharp

namespace Library

variable {F : Framework}

/-! ### What a caller sees -/

section Specification

variable (lib : Library) (M : Machine F) (target : Target)

/-- What the entry point is given for a parameter, by the key and the value that the caller gave. -/
inductive Passes (key : Option (Value F)) (p : Param) : Option (Value F) → Option (Value F) → Prop
  /-- The native value of a handle or record that the callee reads. -/
  | unwrapped {keyValue value native : Value F} (crossing : lib.Crossing p.type)
      (isRead : p.direction = .input ∨ p.direction = .byRef) (keyed : key = some keyValue)
      (converts : M.Converts "Unwrap" keyValue value native) : Passes key p (some value) (some native)
  /-- A new native instance for the callee to fill. -/
  | instance {given : Option (Value F)} {start : Value F} (kind : lib.kindOf p.type = .classType)
      (buffer : p.direction = .buffer)
      (constructed : M.construct? (lib.nativeType target p) = some start) :
      Passes key p given (some start)
  | bool {value native : Value F} (kind : lib.kindOf p.type = .bool)
      (converts : M.invoke? "ToBOOL" [(.byValue, some value)] = some ([value], native)) :
      Passes key p (some value) (some native)
  /-- Nothing for a parameter that is only written. There is a native instance for a class even so. -/
  | output {given : Option (Value F)} (output : p.direction = .output)
      (made : lib.kindOf p.type = .classType →
        ∃ start, M.construct? (lib.nativeType target p) = some start) :
      Passes key p given none
  /-- The value of the caller for any other parameter. -/
  | same {value : Value F} (notCrossing : ¬ lib.Crossing p.type)
      (notBool : lib.kindOf p.type ≠ .bool) (notOutput : p.direction ≠ .output) :
      Passes key p (some value) (some value)

/-- What a parameter holds on return, by the key that the call left, the value that the caller gave,
the value that the entry point was given, and what the callee wrote. -/
inductive Leaves (key : Option (Value F)) (p : Param) (given incoming : Option (Value F))
    (written : Value F) : Value F → Prop
  /-- The application value of a handle or struct that the callee wrote. -/
  | wrapped {keyValue value : Value F}
      (kind : lib.kindOf p.type = .handle ∨ lib.kindOf p.type = .structType)
      (isWritten : p.isWritten = true) (keyed : key = some keyValue)
      (converts : M.Converts "Wrap" keyValue written value) : Leaves key p given incoming written value
  /-- The instance that the caller gave, or a new one where the callee only writes, filled from the
  native instance. -/
  | filled {keyValue start final : Value F} (kind : lib.kindOf p.type = .classType)
      (isWritten : p.isWritten = true) (keyed : key = some keyValue)
      (started : if p.isOut then M.construct? (lib.typeName (.application target) p.type) = some start
        else given = some start)
      (fills : M.Fills "CopyWrap" .byValue keyValue (settled p incoming written) start final) :
      Leaves key p given incoming written (start.afterCall final)
  /-- What the callee wrote into any other parameter. -/
  | written (notCrossing : ¬ lib.Crossing p.type) (isWritten : p.isWritten = true) :
      Leaves key p given incoming written (settled p incoming written)
  /-- What the caller gave for a parameter that the callee only reads. -/
  | same {value : Value F} (input : p.direction = .input) (isGiven : given = some value) :
      Leaves key p given incoming written value

/-- What the caller gets as the result, by the key that the call left and the result of the call. -/
inductive Answers (key : Option (Value F)) (type : TypeRef) (native : Value F) : Value F → Prop
  | nothing (isVoid : type = .named "void") : Answers key type native .nothing
  | wrapped {keyValue value : Value F} (crossing : lib.Crossing type) (keyed : key = some keyValue)
      (converts : M.Converts "Wrap" keyValue native value) : Answers key type native value
  | bool {value : Value F} (kind : lib.kindOf type = .bool)
      (converts : M.invoke? "ToBool" [(.byValue, some native)] = some ([native], value)) :
      Answers key type native value
  | same (notVoid : type ≠ .named "void") (notCrossing : ¬ lib.Crossing type)
      (notBool : lib.kindOf type ≠ .bool) : Answers key type native native

end Specification

variable {lib : Library} {M : Machine F} {target : Target} {f : Function} {p : Param}
  {key given incoming : Option (Value F)} {written final : Value F}

/-! ### One parameter -/

theorem HasTemporary.direct (hasTemporary : lib.HasTemporary p) : lib.IsDirect p := .inl hasTemporary

theorem IsDirect.of_bool (kind : lib.kindOf p.type = .bool) : ¬ lib.IsDirect p := by
  rintro (⟨crossing, -⟩ | ⟨-, notBool⟩)
  · rw [Crossing, kind] at crossing
    simp at crossing
  · exact notBool kind

theorem IsDirect.of_input (crossing : lib.Crossing p.type) (input : p.direction = .input) :
    ¬ lib.IsDirect p := by
  rintro (⟨-, isWritten⟩ | ⟨notCrossing, -⟩)
  · rw [isWritten_eq_false_iff.mpr input] at isWritten
    exact Bool.false_ne_true isWritten
  · exact notCrossing crossing

/-- What the entry point is given is provided by the temporary or by the caller. -/
theorem exists_slot_of_passes (convertible : lib.Convertible p)
    (passes : lib.Passes M target key p given incoming) :
    ∃ slot, (lib.HasTemporary p → lib.Prepares M target key p given slot) ∧
      lib.Provides M p key given (if lib.HasTemporary p then slot else .ofArgument given)
        incoming := by
  cases passes with
  | @unwrapped keyValue value native crossing isRead keyed converts =>
    rcases isRead with input | byRef
    · have notDirect := IsDirect.of_input crossing input
      refine ⟨.absent, fun hasTemporary => absurd hasTemporary.direct notDirect, ?_⟩
      rw [Provides, if_neg notDirect]
      refine ⟨native, rfl, ?_⟩
      rw [if_pos crossing]
      exact ⟨keyValue, value, keyed, rfl, converts⟩
    · have hasTemporary : lib.HasTemporary p := ⟨crossing, by simp [Param.isWritten, byRef]⟩
      refine ⟨.holds native, fun _ => ?_, ?_⟩
      · rw [Prepares, if_pos (by simp [Param.isRef, byRef])]
        exact ⟨native, ⟨keyValue, value, keyed, rfl, converts⟩, rfl⟩
      · rw [Provides, if_pos hasTemporary.direct, if_pos hasTemporary]
        simp [Param.isOut, byRef, Slot.value?]
  | @«instance» _ start kind buffer constructed =>
    have hasTemporary : lib.HasTemporary p :=
      ⟨.inr (.inr kind), by simp [Param.isWritten, buffer]⟩
    refine ⟨.holds start, fun _ => ?_, ?_⟩
    · rw [Prepares, if_neg (by simp [Param.isRef, buffer]), if_pos kind]
      exact ⟨start, constructed, rfl⟩
    · rw [Provides, if_pos hasTemporary.direct, if_pos hasTemporary]
      simp [Param.isOut, buffer, Slot.value?]
  | @bool value native kind converts =>
    have notDirect := IsDirect.of_bool kind
    have notCrossing : ¬ lib.Crossing p.type := by rw [Crossing, kind]; simp
    refine ⟨.absent, fun hasTemporary => absurd hasTemporary.direct notDirect, ?_⟩
    rw [Provides, if_neg notDirect]
    refine ⟨native, rfl, ?_⟩
    rw [if_neg notCrossing]
    exact ⟨value, rfl, converts⟩
  | output output made =>
    have notRef : ¬ p.isRef = true := by simp [Param.isRef, output]
    have direct : lib.IsDirect p := by
      by_contra notDirect
      have input := isInput_of_not_direct convertible notDirect
      rw [output] at input
      exact Direction.noConfusion input
    have provides : ∀ slot : Slot F, lib.Provides M p key given slot none := by
      intro slot
      rw [Provides, if_pos direct, if_pos (by simp [Param.isOut, output])]
    by_cases kind : lib.kindOf p.type = .classType
    · obtain ⟨start, constructed⟩ := made kind
      refine ⟨.holds start, fun _ => ?_, provides _⟩
      rw [Prepares, if_neg notRef, if_pos kind]
      exact ⟨start, constructed, rfl⟩
    · refine ⟨.unassigned, fun _ => ?_, provides _⟩
      rw [Prepares, if_neg notRef, if_neg kind]
  | @same value notCrossing notBool notOutput =>
    have noTemporary : ¬ lib.HasTemporary p := fun hasTemporary => notCrossing hasTemporary.1
    refine ⟨.absent, fun hasTemporary => absurd hasTemporary noTemporary, ?_⟩
    rw [Provides, if_pos (.inr ⟨notCrossing, notBool⟩), if_neg (by simpa [Param.isOut]),
      if_neg noTemporary]
    exact ⟨rfl, by simp⟩

/-- A temporary passes what it was prepared with. -/
theorem passes_of_temporary {slot : Slot F} (convertible : lib.Convertible p)
    (hasTemporary : lib.HasTemporary p) (prepares : lib.Prepares M target key p given slot)
    (provides : lib.Provides M p key given slot incoming) :
    lib.Passes M target key p given incoming := by
  rw [Provides, if_pos hasTemporary.direct] at provides
  rw [Prepares] at prepares
  cases direction : p.direction with
  | input =>
    have isWritten := hasTemporary.2
    rw [isWritten_eq_false_iff.mpr direction] at isWritten
    exact absurd isWritten (by simp)
  | output =>
    simp only [Param.isOut, Param.isRef, direction, beq_self_eq_true, if_true] at provides prepares
    rw [provides]
    refine .output direction fun kind => ?_
    rw [if_neg (by decide), if_pos kind] at prepares
    obtain ⟨start, constructed, -⟩ := prepares
    exact ⟨start, constructed⟩
  | byRef =>
    simp only [Param.isOut, Param.isRef, direction, beq_self_eq_true, if_true] at provides prepares
    obtain ⟨native, ⟨keyValue, value, keyed, rfl, converts⟩, rfl⟩ := prepares
    rw [if_neg (by decide)] at provides
    rw [provides.1]
    exact .unwrapped hasTemporary.1 (.inr direction) keyed converts
  | buffer =>
    have kind : lib.kindOf p.type = .classType := by
      rcases hasTemporary.1 with handle | struct | isClass
      · exact absurd direction (convertible.2.1 (.inl handle))
      · exact absurd direction (convertible.2.1 (.inr struct))
      · exact isClass
    rw [if_neg (by simp [Param.isRef, direction]), if_pos kind] at prepares
    rw [if_neg (by simp [Param.isOut, direction])] at provides
    obtain ⟨start, constructed, rfl⟩ := prepares
    rw [provides.1]
    exact .instance kind direction constructed

/-- The entry point is given for a parameter what its temporary or the caller provides. -/
theorem passes_iff (convertible : lib.Convertible p)
    (admitted : given = none ↔ p.direction = .output) :
    lib.Passes M target key p given incoming ↔
      ∃ slot, (lib.HasTemporary p → lib.Prepares M target key p given slot) ∧
        lib.Provides M p key given (if lib.HasTemporary p then slot else .ofArgument given)
          incoming := by
  refine ⟨exists_slot_of_passes convertible, ?_⟩
  rintro ⟨slot, prepares, provides⟩
  by_cases hasTemporary : lib.HasTemporary p
  · rw [if_pos hasTemporary] at provides
    exact passes_of_temporary convertible hasTemporary (prepares hasTemporary) provides
  rw [if_neg hasTemporary, Provides] at provides
  split at provides
  · rename_i direct
    obtain ⟨notCrossing, notBool⟩ := direct.resolve_left hasTemporary
    by_cases output : p.direction = .output
    · rw [if_pos (by simp [Param.isOut, output])] at provides
      rw [provides]
      refine .output output fun kind => absurd (.inr (.inr kind)) notCrossing
    · rw [if_neg (by simpa [Param.isOut])] at provides
      obtain ⟨value, rfl⟩ := Option.ne_none_iff_exists'.mp (mt admitted.mp output)
      rw [provides.1]
      exact .same notCrossing notBool output
  · rename_i notDirect
    obtain ⟨native, rfl, converted⟩ := provides
    have input := isInput_of_not_direct convertible notDirect
    split at converted
    · rename_i crossing
      obtain ⟨keyValue, value, keyed, rfl, converts⟩ := converted
      exact .unwrapped crossing (.inl input) keyed converts
    · rename_i notCrossing
      obtain ⟨value, rfl, converts⟩ := converted
      refine .bool ?_ converts
      by_contra notBool
      exact notDirect (.inr ⟨notCrossing, notBool⟩)

/-- A handle or struct that is written is passed by reference. -/
theorem settled_of_value (convertible : lib.Convertible p)
    (kind : lib.kindOf p.type = .handle ∨ lib.kindOf p.type = .structType)
    (isWritten : p.isWritten = true) : settled p incoming written = written := by
  have notBuffer := convertible.2.1 kind
  cases direction : p.direction with
  | input => simp [Param.isWritten, direction] at isWritten
  | buffer => exact absurd direction notBuffer
  | output | byRef => simp [settled, direction]

/-- A parameter that is only read keeps the value of the caller. -/
theorem value?_settledSlot_of_input (input : p.direction = .input)
    (passes : lib.Passes M target key p given incoming) :
    (lib.settledSlot p (.ofArgument given) incoming written).value? = given := by
  rw [settledSlot]
  split
  · rename_i direct
    cases passes with
    | unwrapped crossing => exact absurd direct (IsDirect.of_input crossing input)
    | «instance» kind buffer => simp [input] at buffer
    | bool kind => exact absurd direct (IsDirect.of_bool kind)
    | output output => simp [input] at output
    | same => simp [settled, input, Slot.value?]
  · exact Slot.value?_ofArgument

/-- A parameter holds on return what is written back into it, or else what the call left. -/
theorem leaves_iff (convertible : lib.Convertible p)
    (passes : lib.Passes M target key p given incoming) {keyAfter : Option (Value F)} :
    lib.Leaves M target keyAfter p given incoming written final ↔
      if lib.HasTemporary p then
        lib.WritesBack M target keyAfter p given (some (settled p incoming written)) (.holds final)
      else (lib.settledSlot p (.ofArgument given) incoming written).value? = some final := by
  have settledSlot_written : ¬ lib.Crossing p.type → p.isWritten = true →
      (lib.settledSlot p (.ofArgument given) incoming written).value? =
        some (settled p incoming written) := by
    intro notCrossing isWritten
    have notBool : lib.kindOf p.type ≠ .bool := by
      intro kind
      rw [isWritten_eq_false_iff.mpr (convertible.1 (kindOf_eq_bool_iff.mp kind))] at isWritten
      exact Bool.false_ne_true isWritten
    rw [settledSlot, if_pos (.inr ⟨notCrossing, notBool⟩)]
    rfl
  constructor
  · intro leaves
    cases leaves with
    | @wrapped keyValue _ kind isWritten keyed converts =>
      have notClass : lib.kindOf p.type ≠ .classType := by
        rcases kind with kind | kind <;> simp [kind]
      have crossing : lib.Crossing p.type := kind.elim .inl fun struct => .inr (.inl struct)
      rw [if_pos ⟨crossing, isWritten⟩, settled_of_value convertible kind isWritten]
      refine ⟨keyValue, written, keyed, rfl, ?_⟩
      rw [if_neg notClass]
      exact ⟨final, converts, rfl⟩
    | @filled keyValue start final kind isWritten keyed started fills =>
      rw [if_pos ⟨.inr (.inr kind), isWritten⟩]
      refine ⟨keyValue, _, keyed, rfl, ?_⟩
      rw [if_pos kind]
      exact ⟨start, final, started, fills, rfl⟩
    | written notCrossing isWritten =>
      rw [if_neg fun hasTemporary => notCrossing hasTemporary.1]
      exact settledSlot_written notCrossing isWritten
    | same input isGiven =>
      have noTemporary : ¬ lib.HasTemporary p := by
        rintro ⟨-, isWritten⟩
        rw [isWritten_eq_false_iff.mpr input] at isWritten
        exact Bool.false_ne_true isWritten
      rw [if_neg noTemporary, value?_settledSlot_of_input input passes, isGiven]
  · intro leaves
    by_cases isWritten : p.isWritten = true
    · by_cases crossing : lib.Crossing p.type
      · rw [if_pos ⟨crossing, isWritten⟩] at leaves
        obtain ⟨keyValue, native, keyed, same, back⟩ := leaves
        obtain rfl := Option.some.inj same
        split at back
        · rename_i kind
          obtain ⟨start, filled, started, fills, same⟩ := back
          obtain rfl := Slot.holds.inj same
          exact .filled kind isWritten keyed started fills
        · rename_i notClass
          have kind : lib.kindOf p.type = .handle ∨ lib.kindOf p.type = .structType := by
            rcases crossing with handle | struct | isClass
            · exact .inl handle
            · exact .inr struct
            · exact absurd isClass notClass
          obtain ⟨value, converts, same⟩ := back
          obtain rfl := Slot.holds.inj same
          rw [settled_of_value convertible kind isWritten] at converts
          exact .wrapped kind isWritten keyed converts
      · rw [if_neg fun hasTemporary => crossing hasTemporary.1,
          settledSlot_written crossing isWritten] at leaves
        rw [← Option.some.inj leaves]
        exact .written crossing isWritten
    · have input := isWritten_eq_false_iff.mp (Bool.not_eq_true _ ▸ isWritten)
      rw [if_neg fun hasTemporary => isWritten hasTemporary.2,
        value?_settledSlot_of_input input passes] at leaves
      exact .same input leaves

/-! ### The result -/

section Result

variable (accepted : lib.Accepted) (plain : lib.PlainRecords)
  (routines : M.routines = lib.routines target) {type : TypeRef} {native value : Value F}
  (typed : native.type = lib.typeName (.native target) type)
  (plainArray : lib.kindOf type = .array → lib.PlainArray type)
include accepted plain routines typed plainArray

/-- The value that the body returns has the type that the function declares. -/
theorem type_of_returns (returns : lib.Returns M type key native value) :
    value.type = lib.typeName (.application target) type := by
  rw [Returns] at returns
  split at returns
  · rename_i crossing
    obtain ⟨keyValue, -, converts⟩ := returns
    exact @type_of_converts F M keyValue native value target .wrap lib accepted plain routines type
      crossing typed converts
  · rename_i notCrossing
    split at returns
    · rename_i kind
      obtain ⟨routine, found, ran⟩ := Machine.invoke?_iff.mp returns
      have called := called_of_routine? routines found
      generalize isName : "ToBool" = name at called
      cases called with
      | toBool =>
        rw [kindOf_eq_bool_iff.mp kind]
        exact Machine.type_of_run? (show "bool" ≠ "void" by decide) ran
      | toNativeBool => exact absurd isName (by decide)
    · rename_i notBool
      rw [returns, typed]
      exact typeName_eq_of_plain (plainArray_of_kind plainArray notCrossing notBool) _ _

/-- The caller gets what the body returns. -/
theorem answers_iff (notVoid : type ≠ .named "void") {result : Value F} :
    lib.Answers M key type native result ↔
      ∃ value, lib.Returns M type key native value ∧
        value.returnedAs (lib.typeName (.application target) type) = some result := by
  have returned : ∀ {value}, lib.Returns M type key native value →
      value.returnedAs (lib.typeName (.application target) type) = some value := by
    intro value returns
    rw [← type_of_returns accepted plain routines typed plainArray returns]
    exact Value.returnedAs_type
  have answers : lib.Answers M key type native result ↔ lib.Returns M type key native result := by
    rw [Returns]
    constructor
    · intro answers
      cases answers with
      | nothing isVoid => exact absurd isVoid notVoid
      | @wrapped keyValue _ crossing keyed converts =>
        rw [if_pos crossing]
        exact ⟨keyValue, keyed, converts⟩
      | bool kind converts =>
        have notCrossing : ¬ lib.Crossing type := by rw [Crossing, kind]; simp
        rwa [if_neg notCrossing, if_pos kind]
      | same _ notCrossing notBool => rw [if_neg notCrossing, if_neg notBool]
    · intro returns
      split at returns
      · obtain ⟨keyValue, keyed, converts⟩ := returns
        exact .wrapped ‹_› keyed converts
      · split at returns
        · exact .bool ‹_› returns
        · rw [returns]
          exact .same notVoid ‹_› ‹_›
  rw [answers]
  constructor
  · exact fun returns => ⟨result, returns, returned returns⟩
  · rintro ⟨value, returns, isReturned⟩
    obtain rfl := Option.some.inj ((returned returns).symm.trans isReturned)
    exact returns

end Result

/-! ### The state of a body -/

section Body

variable {given : Param → Option (Value F)} {slot : Param → Slot F}

/-- The state in which the body of a function starts. -/
def entered (lib : Library) (target : Target) (f : Function) (given : Param → Option (Value F)) :
    State F :=
  .start (lib.parameters (.application target) f) (f.params.map given)

/-- A parameter starts with the value that the caller gave. -/
theorem locals_entered (names : f.DistinctNames) (isParam : p ∈ f.params) :
    (lib.entered target f given).locals p.name = .ofArgument (given p) := by
  have distinct : ((lib.parameters (.application target) f).map (·.name)).Nodup := by
    rw [names_parameters]
    exact names.params
  have started : List.Forall₂ (fun parameter arg => (lib.entered target f given).locals
      parameter.name = .ofArgument arg) (lib.parameters (.application target) f)
        (f.params.map given) :=
    State.forall₂_start distinct (by simp [parameters])
  rw [parameters, List.forall₂_map_left_iff, List.forall₂_map_right_iff, List.forall₂_same]
    at started
  exact started p isParam

/-- Nothing else is declared at the start. -/
theorem locals_entered_of_ne {name : String} (apart : ∀ p ∈ f.params, p.name ≠ name) :
    (lib.entered target f given).locals name = .absent := by
  refine State.locals_start_of_notMem ?_
  rw [names_parameters, List.mem_map]
  rintro ⟨p, isParam, same⟩
  exact apart p isParam same

/-- A parameter passed by reference can be assigned. -/
theorem notMem_fixed_entered (names : f.DistinctNames) (isParam : p ∈ f.params)
    (byReference : p.direction.passing ≠ .byValue) :
    p.name ∉ (lib.entered target f given).fixed := by
  intro fixed
  obtain ⟨parameter, isParameter, byValue, same⟩ := State.exists_of_mem_fixed_start fixed
  obtain ⟨q, alsoParam, rfl⟩ := List.mem_map.mp isParameter
  obtain rfl := List.inj_on_of_nodup_map names.params alsoParam isParam same
  exact byReference byValue

/-- The key is what the parameter of its name holds. -/
theorem read_machine {σ : State F} {held : Param → Option (Value F)}
    (holds : ∀ p ∈ f.params, p.name = machineParam → σ.read (.name p.name) = held p)
    (none : (∀ p ∈ f.params, p.name ≠ machineParam) → σ.locals machineParam = .absent) :
    σ.read machineExpr = f.machineParam?.bind held := by
  rw [Function.machineParam?]
  cases found : f.params.find? (·.name == machineParam) with
  | none =>
    have absent := none fun p isParam same => by
      simpa [same] using List.find?_eq_none.mp found p isParam
    rw [machineExpr, State.read_name, absent]
    rfl
  | some q =>
    have named : q.name = machineParam := by simpa using List.find?_some found
    rw [Option.bind_some, ← holds q (List.mem_of_find?_eq_some found) named, named]
    rfl

/-- The state after the temporaries are declared. -/
def prepared (lib : Library) (target : Target) (f : Function) (given : Param → Option (Value F))
    (slot : Param → Slot F) : State F :=
  (lib.entered target f given).setEach (lib.temporaryParams f) Param.temporary slot

/-- A temporary is no parameter. -/
theorem locals_prepared_of_ne {name : String}
    (apart : ∀ p ∈ f.params, p.temporary ≠ name) :
    (lib.prepared target f given slot).locals name = (lib.entered target f given).locals name := by
  refine State.locals_setEach_of_notMem fun member => ?_
  obtain ⟨p, isParam, same⟩ := List.mem_map.mp member
  exact apart p (mem_temporaryParams.mp isParam).1 same

theorem locals_prepared_name (names : f.DistinctNames) (isParam : p ∈ f.params) :
    (lib.prepared target f given slot).locals p.name = .ofArgument (given p) := by
  rw [locals_prepared_of_ne fun q alsoParam same => names.notTemporary p isParam q alsoParam same.symm,
    locals_entered names isParam]

/-- The variable that stands for a parameter in the call holds its temporary or the parameter. -/
theorem locals_prepared_stand (names : f.DistinctNames) (isParam : p ∈ f.params) :
    (lib.prepared target f given slot).locals (lib.stand p) =
      if lib.HasTemporary p then slot p else .ofArgument (given p) := by
  rw [stand]
  split
  · rename_i hasTemporary
    have distinct : ((lib.temporaryParams f).map Param.temporary).Nodup := by
      refine (nodup_temporaryParams names.params.of_map).map_on fun p isMember q alsoMember same => ?_
      exact List.inj_on_of_nodup_map names.params (mem_temporaryParams.mp isMember).1
        (mem_temporaryParams.mp alsoMember).1 (Param.temporary_injective same)
    exact State.locals_setEach_of_mem distinct (mem_temporaryParams.mpr ⟨isParam, hasTemporary⟩)
  · exact locals_prepared_name names isParam

/-! ### The whole body -/

variable {incoming : Param → Option (Value F)}

/-- What a parameter without a temporary holds after the call. -/
def kept (lib : Library) (M : Machine F) (f : Function) (given incoming : Param → Option (Value F))
    (p : Param) : Option (Value F) :=
  (lib.settledSlot p (.ofArgument (given p)) (incoming p)
    ((M.native f.name (f.params.map incoming)).written p.name)).value?

/-- The state after the call and the declaration of its result. -/
def replied (lib : Library) (M : Machine F) (target : Target) (f : Function)
    (given : Param → Option (Value F)) (slot : Param → Slot F)
    (incoming : Param → Option (Value F)) : State F :=
  lib.answered M f (lib.prepared target f given slot) incoming

section Replied

variable (names : f.DistinctNames) (isParam : p ∈ f.params)
include names isParam

theorem locals_replied_of_plain (noTemporary : ¬ lib.HasTemporary p) :
    (lib.replied M target f given slot incoming).locals p.name =
      lib.settledSlot p (.ofArgument (given p)) (incoming p)
        ((M.native f.name (f.params.map incoming)).written p.name) := by
  have stand : lib.stand p = p.name := by rw [stand, if_neg noTemporary]
  have answered := @locals_answered_stand F lib M (lib.prepared target f given slot) f p incoming
    names isParam
  rw [stand, locals_prepared_name names isParam] at answered
  exact answered

theorem locals_replied_of_temporary (hasTemporary : lib.HasTemporary p) :
    (lib.replied M target f given slot incoming).locals p.name = .ofArgument (given p) := by
  rw [replied, locals_answered_of_temporary names isParam hasTemporary,
    locals_prepared_name names isParam]

theorem locals_replied_temporary (hasTemporary : lib.HasTemporary p) :
    (lib.replied M target f given slot incoming).locals p.temporary =
      .holds (settled p (incoming p)
        ((M.native f.name (f.params.map incoming)).written p.name)) := by
  have stand : lib.stand p = p.temporary := by rw [stand, if_pos hasTemporary]
  rw [replied, ← stand, locals_answered_stand names isParam, settledSlot,
    if_pos hasTemporary.direct]

theorem locals_replied_ne_absent :
    (lib.replied M target f given slot incoming).locals p.name ≠ .absent := by
  by_cases hasTemporary : lib.HasTemporary p
  · rw [locals_replied_of_temporary names isParam hasTemporary]
    exact Slot.ofArgument_ne_absent
  · rw [locals_replied_of_plain names isParam hasTemporary, settledSlot]
    split
    · simp
    · exact Slot.ofArgument_ne_absent

end Replied

/-- The key is converted by nothing. -/
theorem not_crossing_machineParam (accepted : lib.Accepted) (member : f ∈ lib.functions)
    (found : f.machineParam? = some p) : ¬ lib.Crossing p.type := by
  intro crossing
  obtain ⟨key, alsoFound, isInt⟩ := accepted.sound.keyed f (List.mem_append_left _ member)
    (.inr ⟨p, List.mem_of_find?_eq_some found, crossing.converted⟩)
  obtain rfl := Option.some.inj (found.symm.trans alsoFound)
  have kind : lib.kindOf p.type = .primitive := by
    rw [isInt, kindOf, kindOfName]
    simp [handleType, show canonicalPrimitive? "int" = some "int" by decide]
  simp [Crossing, kind] at crossing

/-- No parameter that is converted has the name of the key. -/
theorem name_ne_machine (accepted : lib.Accepted) (member : f ∈ lib.functions)
    (names : f.DistinctNames) (isParam : p ∈ f.params) (crossing : lib.Crossing p.type) :
    p.name ≠ machineParam := by
  intro same
  obtain ⟨key, found, -⟩ := accepted.sound.keyed f (List.mem_append_left _ member)
    (.inr ⟨p, isParam, crossing.converted⟩)
  have named : key.name = machineParam := by simpa using List.find?_some found
  obtain rfl := List.inj_on_of_nodup_map names.params (List.mem_of_find?_eq_some found) isParam
    (named.trans same.symm)
  exact not_crossing_machineParam accepted member found crossing

/-- The conversions after the call take the key that the call left. -/
theorem read_machine_replied (accepted : lib.Accepted) (member : f ∈ lib.functions)
    (names : f.DistinctNames) :
    (lib.replied M target f given slot incoming).read machineExpr =
      f.machineParam?.bind (lib.kept M f given incoming) := by
  refine read_machine (fun p isParam named => ?_) fun apart => ?_
  · have noTemporary : ¬ lib.HasTemporary p := fun hasTemporary =>
      name_ne_machine accepted member names isParam hasTemporary.1 named
    rw [State.read_name, locals_replied_of_plain names isParam noTemporary]
    rfl
  · have notStand : ∀ p ∈ f.params, lib.stand p ≠ machineParam := by
      intro p isParam
      rw [stand]
      split
      · exact p.temporary_ne_machine
      · exact apart p isParam
    rw [replied, locals_answered_of_ne (by decide) notStand,
      locals_prepared_of_ne fun p _ => p.temporary_ne_machine, locals_entered_of_ne apart]

/-- A handle that is only read is still what the caller gave. -/
theorem exists_read_keptAlive (names : f.DistinctNames)
    (admitted : ∀ p ∈ f.params, given p = none ↔ p.direction = .output)
    (isHandle : p ∈ lib.paramsOfKind f .handle false) :
    ∃ value, (lib.replied M target f given slot incoming).read (.name p.name) = some value := by
  obtain ⟨isParam, kind, notWritten⟩ := mem_paramsOfKind.mp isHandle
  have input := isWritten_eq_false_iff.mp notWritten
  have noTemporary : ¬ lib.HasTemporary p := by simp [HasTemporary, notWritten]
  have isGiven : given p ≠ none := fun none => by
    simp [(admitted p isParam).mp none] at input
  rw [State.read_name, locals_replied_of_plain names isParam noTemporary, settledSlot,
    if_neg (IsDirect.of_input (.inl kind) input), Slot.value?_ofArgument]
  exact Option.ne_none_iff_exists'.mp isGiven

section WrittenBack

variable {back : Param → Slot F}

/-- Nothing that is written back is the key. -/
theorem read_machine_writtenBack (accepted : lib.Accepted) (member : f ∈ lib.functions)
    (names : f.DistinctNames) :
    ((lib.replied M target f given slot incoming).setEach (lib.temporaryParams f) Param.name
      back).read machineExpr = f.machineParam?.bind (lib.kept M f given incoming) := by
  rw [← read_machine_replied accepted member names, machineExpr, State.read_name, State.read_name,
    State.locals_setEach_of_notMem (notMem_temporaryParams_names fun p isParam hasTemporary =>
      name_ne_machine accepted member names isParam hasTemporary.1)]

/-- Nothing that is written back is the result. -/
theorem read_result_writtenBack (names : f.DistinctNames) (notVoid : f.returnType.isVoid = false) :
    ((lib.replied M target f given slot incoming).setEach (lib.temporaryParams f) Param.name
      back).read (.name resultName) = some (M.native f.name (f.params.map incoming)).result := by
  rw [State.read_name, State.locals_setEach_of_notMem (notMem_temporaryParams_names
    fun p isParam _ => names.notResult p isParam), ← State.read_name, replied,
    read_result_answered notVoid]

end WrittenBack

theorem read_machine_entered (names : f.DistinctNames) :
    (lib.entered target f given).read machineExpr = f.machineParam?.bind given := by
  refine read_machine (fun p isParam _ => ?_) locals_entered_of_ne
  rw [State.read_name, locals_entered names isParam, Slot.value?_ofArgument]

theorem read_machine_prepared (names : f.DistinctNames) :
    (lib.prepared target f given slot).read machineExpr = f.machineParam?.bind given := by
  rw [← read_machine_entered names, machineExpr, State.read_name, State.read_name,
    locals_prepared_of_ne fun p _ => p.temporary_ne_machine]

/-- The variable that stands for a parameter is declared before the call. -/
theorem stand_present (names : f.DistinctNames) (isParam : p ∈ f.params)
    (prepares : lib.HasTemporary p → lib.Prepares M target key p (given p) (slot p)) :
    (lib.prepared target f given slot).locals (lib.stand p) ≠ .absent := by
  rw [locals_prepared_stand names isParam]
  split
  · rename_i hasTemporary
    have isPrepared := prepares hasTemporary
    rw [Prepares] at isPrepared
    split at isPrepared
    · obtain ⟨_, -, same⟩ := isPrepared
      simp [same]
    · split at isPrepared
      · obtain ⟨_, -, same⟩ := isPrepared
        simp [same]
      · simp [isPrepared]
  · exact Slot.ofArgument_ne_absent

section Phases

variable (accepted : lib.Accepted) (member : f ∈ lib.functions) (names : f.DistinctNames)
  (routines : M.routines = lib.routines target)
  (admitted : ∀ p ∈ f.params, given p = none ↔ p.direction = .output)
include accepted member names routines

/-- What precedes the call declares one variable for each parameter that needs one. -/
theorem exec_entered_iff {rest : List Step} {run : Ending F × State F} :
    exec M (lib.entered target f given) (.ofSteps (lib.temporaries target f ++ rest)) = some run ↔
      ∃ slot, (∀ p ∈ f.params, lib.HasTemporary p →
        lib.Prepares M target (f.machineParam?.bind given) p (given p) (slot p)) ∧
          exec M (lib.prepared target f given slot) (.ofSteps rest) = some run := by
  rw [exec_temporaries_iff routines names (accepted.sound.param_convertible f member)
    fun p isParam => locals_entered_of_ne fun q alsoParam =>
      names.notTemporary q alsoParam p isParam]
  refine exists_congr fun slot => and_congr_left fun _ => ?_
  simp only [mem_temporaryParams, and_imp]
  refine forall_congr' fun p => forall_congr' fun isParam => forall_congr' fun _ => ?_
  rw [read_machine_entered names, State.read_name, locals_entered names isParam,
    Slot.value?_ofArgument]

/-- The call gives every parameter what its variable holds. -/
theorem exec_prepared_iff (classes : ClassNames)
    (entryPoints : M.entryPoints = lib.entryPointDelegates classes target) {rest : List Step}
    {run : Ending F × State F}
    (prepares : ∀ p ∈ f.params, lib.HasTemporary p →
      lib.Prepares M target (f.machineParam?.bind given) p (given p) (slot p)) :
    exec M (lib.prepared target f given slot) (.ofSteps ([lib.entryCall f] ++ rest)) = some run ↔
      ∃ incoming : Param → Option (Value F),
        (∀ p ∈ f.params, lib.Provides M p (f.machineParam?.bind given) (given p)
          (if lib.HasTemporary p then slot p else .ofArgument (given p)) (incoming p)) ∧
            exec M (lib.replied M target f given slot incoming) (.ofSteps rest) = some run := by
  have found := entryPoint?_of_function accepted member entryPoints
  have absent : (lib.prepared target f given slot).locals resultName = .absent := by
    rw [locals_prepared_of_ne fun p _ => p.temporary_ne_result,
      locals_entered_of_ne names.notResult]
  rw [exec_entryCall_iff routines names found (accepted.sound.param_convertible f member)
    (fun p isParam => stand_present names isParam (prepares p isParam)) absent]
  refine exists_congr fun incoming => and_congr_left fun _ => ?_
  refine forall_congr' fun p => forall_congr' fun isParam => ?_
  rw [read_machine_prepared names, State.read_name, locals_prepared_name names isParam,
    locals_prepared_stand names isParam, Slot.value?_ofArgument]

include admitted

/-- What follows the call. -/
theorem exec_replied_iff {ending : Ending F} {τ : State F} :
    exec M (lib.replied M target f given slot incoming)
        (.ofSteps (lib.keepAlives f ++ (lib.writeBacks target f ++ lib.returnSteps f))) =
          some (ending, τ) ↔
      ∃ back : Param → Slot F,
        (∀ p ∈ f.params, lib.HasTemporary p →
          lib.WritesBack M target (f.machineParam?.bind (lib.kept M f given incoming)) p (given p)
            (some (settled p (incoming p)
              ((M.native f.name (f.params.map incoming)).written p.name))) (back p)) ∧
        (if f.returnType.isVoid then ending = .next
        else ∃ value, lib.Returns M f.returnType
            (f.machineParam?.bind (lib.kept M f given incoming))
            (M.native f.name (f.params.map incoming)).result value ∧
          ending = .left (some value)) ∧
        τ = (lib.replied M target f given slot incoming).setEach (lib.temporaryParams f) Param.name
          back := by
  have convertible := accepted.sound.param_convertible f member
  have written : ∀ back : Param → Slot F, (∀ p ∈ lib.temporaryParams f, lib.WritesBack M target
      ((lib.replied M target f given slot incoming).read machineExpr) p
        ((lib.replied M target f given slot incoming).read (.name p.name))
          ((lib.replied M target f given slot incoming).read (.name p.temporary)) (back p)) ↔
      ∀ p ∈ f.params, lib.HasTemporary p →
        lib.WritesBack M target (f.machineParam?.bind (lib.kept M f given incoming)) p (given p)
          (some (settled p (incoming p)
            ((M.native f.name (f.params.map incoming)).written p.name))) (back p) := by
    intro back
    simp only [mem_temporaryParams, and_imp]
    refine forall_congr' fun p => forall_congr' fun isParam => forall_congr' fun hasTemporary => ?_
    rw [read_machine_replied accepted member names, State.read_name, State.read_name,
      locals_replied_of_temporary names isParam hasTemporary,
      locals_replied_temporary names isParam hasTemporary, Slot.value?_ofArgument]
    rfl
  have notFixed : ∀ p ∈ f.params, p.direction.passing ≠ .byValue →
      p.name ∉ (lib.replied M target f given slot incoming).fixed := by
    intro p isParam byReference
    rw [replied, fixed_answered, prepared, State.setEach_fixed]
    exact notMem_fixed_entered names isParam byReference
  rw [exec_keepAlives fun p isHandle => exists_read_keptAlive names admitted isHandle,
    exec_writeBacks_iff routines names convertible notFixed
      (fun p isParam => locals_replied_ne_absent names isParam)
      fun p isParam crossing => name_ne_machine accepted member names isParam crossing]
  simp only [written]
  refine exists_congr fun back => and_congr_right fun _ => ?_
  rw [exec_returnSteps_iff routines (read_result_writtenBack names),
    read_machine_writtenBack accepted member names]

/-- The phases one after the other. -/
theorem exec_implementation_iff (classes : ClassNames)
    (entryPoints : M.entryPoints = lib.entryPointDelegates classes target) {ending : Ending F}
    {τ : State F} :
    exec M (lib.entered target f given) (.ofSteps (lib.implementationSteps target f)) =
        some (ending, τ) ↔
      ∃ (slot : Param → Slot F) (incoming : Param → Option (Value F)) (back : Param → Slot F),
        (∀ p ∈ f.params, (lib.HasTemporary p → lib.Prepares M target (f.machineParam?.bind given) p
            (given p) (slot p)) ∧
          lib.Provides M p (f.machineParam?.bind given) (given p)
            (if lib.HasTemporary p then slot p else .ofArgument (given p)) (incoming p)) ∧
        (∀ p ∈ f.params, lib.HasTemporary p →
          lib.WritesBack M target (f.machineParam?.bind (lib.kept M f given incoming)) p (given p)
            (some (settled p (incoming p)
              ((M.native f.name (f.params.map incoming)).written p.name))) (back p)) ∧
        (if f.returnType.isVoid then ending = .next
        else ∃ value, lib.Returns M f.returnType
            (f.machineParam?.bind (lib.kept M f given incoming))
            (M.native f.name (f.params.map incoming)).result value ∧
          ending = .left (some value)) ∧
        τ = (lib.replied M target f given slot incoming).setEach (lib.temporaryParams f) Param.name
          back := by
  simp only [implementationSteps, List.append_assoc]
  rw [exec_entered_iff accepted member names routines]
  constructor
  · rintro ⟨slot, prepares, ran⟩
    obtain ⟨incoming, provides, ran⟩ :=
      (exec_prepared_iff accepted member names routines classes entryPoints prepares).mp ran
    obtain ⟨back, written, ended, same⟩ :=
      (exec_replied_iff accepted member names routines admitted).mp ran
    exact ⟨slot, incoming, back, fun p isParam => ⟨prepares p isParam, provides p isParam⟩, written,
      ended, same⟩
  · rintro ⟨slot, incoming, back, passes, written, ended, same⟩
    refine ⟨slot, fun p isParam => (passes p isParam).1, ?_⟩
    refine (exec_prepared_iff accepted member names routines classes entryPoints
      fun p isParam => (passes p isParam).1).mpr
        ⟨incoming, fun p isParam => (passes p isParam).2, ?_⟩
    exact (exec_replied_iff accepted member names routines admitted).mpr ⟨back, written, ended, same⟩

end Phases

/-! ### Outcomes -/

/-- The result of the body is what the caller gets. -/
theorem answers_iff_ends (accepted : lib.Accepted) (plain : lib.PlainRecords)
    (member : f ∈ lib.functions) (routines : M.routines = lib.routines target) {native result : Value F}
    (typed : f.returnType ≠ .named "void" →
      native.type = lib.typeName (.native target) f.returnType) :
    lib.Answers M key f.returnType native result ↔
      ∃ ending : Ending F,
        (if f.returnType.isVoid then ending = .next
        else ∃ value, lib.Returns M f.returnType key native value ∧ ending = .left (some value)) ∧
          ending.result? (lib.typeName (.application target) f.returnType) = some result := by
  by_cases isVoid : f.returnType = .named "void"
  · have ended : ∀ value : Value F, (Ending.next : Ending F).result?
        (lib.typeName (.application target) (.named "void")) = some value ↔ value = .nothing := by
      intro value
      simp [Ending.result?, eq_comm]
    rw [isVoid]
    simp only [show (TypeRef.named "void").isVoid = true from rfl, if_true, exists_eq_left, ended]
    constructor
    · intro answers
      cases answers with
      | nothing => rfl
      | wrapped crossing => exact absurd rfl crossing.ne_void
      | bool kind => exact absurd (kindOf_eq_bool_iff.mp kind) (by simp)
      | same notVoid => exact absurd rfl notVoid
    · rintro rfl
      exact .nothing rfl
  · have notVoid : f.returnType.isVoid = false := by
      rw [← Bool.not_eq_true, TypeRef.isVoid_iff]
      exact isVoid
    have spelled := @typeName_ne_void lib _ (.application target) isVoid
    simp only [notVoid, Bool.false_eq_true, if_false]
    rw [answers_iff accepted plain routines (typed isVoid)
      (accepted.sound.return_plain f member) isVoid]
    constructor
    · rintro ⟨value, returns, returned⟩
      exact ⟨_, ⟨value, returns, rfl⟩, by rw [Ending.result?, if_neg spelled, returned]⟩
    · rintro ⟨_, ⟨value, returns, rfl⟩, ended⟩
      rw [Ending.result?, if_neg spelled] at ended
      exact ⟨value, returns, ended⟩

/-- The key that the call left is what its parameter holds on return. -/
theorem bind_kept (accepted : lib.Accepted) (member : f ∈ lib.functions) (names : f.DistinctNames)
    {final : Param → Value F}
    (holds : ∀ p ∈ f.params, ¬ lib.HasTemporary p → lib.kept M f given incoming p = some (final p)) :
    f.machineParam?.bind (lib.kept M f given incoming) = f.machineParam?.map final := by
  cases found : f.machineParam? with
  | none => rfl
  | some key =>
    have isParam := List.mem_of_find?_eq_some found
    have named : key.name = machineParam := by simpa using List.find?_some found
    refine holds key isParam fun hasTemporary => ?_
    exact name_ne_machine accepted member names isParam hasTemporary.1 named

/-- A parameter holds on return what was written back into it, or else what the call left. -/
theorem locals_final (names : f.DistinctNames) {back : Param → Slot F} (isParam : p ∈ f.params) :
    (((lib.replied M target f given slot incoming).setEach (lib.temporaryParams f) Param.name
      back).locals p.name).value? =
        if lib.HasTemporary p then (back p).value? else lib.kept M f given incoming p := by
  have subset : ∀ p ∈ lib.temporaryParams f, p ∈ f.params := fun p isMember =>
    (mem_temporaryParams.mp isMember).1
  split
  · rename_i hasTemporary
    rw [State.locals_setEach_of_mem
      (nodup_names names (nodup_temporaryParams names.params.of_map) subset)
      (mem_temporaryParams.mpr ⟨isParam, hasTemporary⟩)]
  · rename_i noTemporary
    rw [State.locals_setEach_of_notMem, locals_replied_of_plain names isParam noTemporary]
    · rfl
    · refine notMem_temporaryParams_names fun q alsoParam hasTemporary same => ?_
      obtain rfl := List.inj_on_of_nodup_map names.params alsoParam isParam same
      exact noTemporary hasTemporary

/-- The entry point is called once. -/
theorem calls_final {back : Param → Slot F} :
    ((lib.replied M target f given slot incoming).setEach (lib.temporaryParams f) Param.name
      back).calls = [⟨f.name, f.params.map incoming⟩] := by
  rw [State.setEach_calls, replied, calls_answered, prepared, State.setEach_calls, entered,
    State.calls_start, List.nil_append]

end Body

/-- What the caller gives fits the parameters: nothing is given for those that are only written. -/
theorem parameters_fit_given {given : Param → Option (Value F)}
    (admitted : ∀ p ∈ f.params, given p = none ↔ p.direction = .output) :
    List.Forall₂ Parameter.Admits (lib.parameters (.application target) f)
      (f.params.map given) := by
  rw [parameters, List.forall₂_map_left_iff, List.forall₂_map_right_iff, List.forall₂_same]
  intro p isParam
  rw [Parameter.Admits, admitted p isParam]
  cases direction : p.direction <;> simp [parameter, Direction.passing, direction]

/-- What the parameters hold on return is one value for each. -/
theorem parameters_hold_iff (distinct : f.params.Nodup) {τ : State F} {finals : List (Value F)} :
    List.Forall₂ (fun parameter final => (τ.locals parameter.name).value? = some final)
        (lib.parameters (.application target) f) finals ↔
      ∃ final : Param → Value F, finals = f.params.map final ∧
        ∀ p ∈ f.params, (τ.locals p.name).value? = some (final p) := by
  have nonempty : Nonempty (Value F) := ⟨.nothing⟩
  rw [parameters, List.forall₂_map_left_iff]
  exact forall₂_iff_exists_map distinct

/-- When the body of a function ends, and what it has done then: the entry point was called once, with
what it is given for each parameter, each parameter holds what the call leaves in it, and the caller
gets the result. -/
theorem run_implementation_iff (accepted : lib.Accepted) (plain : lib.PlainRecords)
    (member : f ∈ lib.functions) (names : f.DistinctNames) (classes : ClassNames) (target : Target)
    (native : String → List (Option (Value F)) → Reply F)
    (typed : ∀ args, f.returnType ≠ .named "void" →
      (native f.name args).result.type = lib.typeName (.native target) f.returnType)
    {given : Param → Option (Value F)}
    (admitted : ∀ p ∈ f.params, given p = none ↔ p.direction = .output) (outcome : Outcome F) :
    let M := lib.machine classes target native
    M.run? (lib.implementation target f) (f.params.map given) = some outcome ↔
      ∃ (incoming : Param → Option (Value F)) (final : Param → Value F) (result : Value F),
        let reply := native f.name (f.params.map incoming)
        let keyBefore := f.machineParam?.bind given
        let keyAfter := f.machineParam?.map final
        (∀ p ∈ f.params, lib.Passes M target keyBefore p (given p) (incoming p)) ∧
          (∀ p ∈ f.params, lib.Leaves M target keyAfter p (given p) (incoming p)
            (reply.written p.name) (final p)) ∧
          lib.Answers M keyAfter f.returnType reply.result result ∧
          outcome = ⟨[⟨f.name, f.params.map incoming⟩], f.params.map final, result⟩ := by
  intro M
  have routines : M.routines = lib.routines target := rfl
  have convertible := accepted.sound.param_convertible f member
  have parameterNames : ((lib.parameters (.application target) f).map (·.name)).Nodup := by
    rw [names_parameters]
    exact names.params
  have executed : ∀ {ending τ}, exec M (lib.entered target f given)
      (.ofSteps (lib.implementationSteps target f)) = some (ending, τ) ↔ _ := fun {ending τ} =>
    exec_implementation_iff accepted member names routines admitted classes rfl
  rw [implementation, Machine.run?_iff parameterNames]
  simp only [signature, parameters_hold_iff names.params.of_map]
  constructor
  · rintro ⟨-, ending, τ, ran, ended, ⟨final, finals, holds⟩, calls⟩
    obtain ⟨slot, incoming, back, passes, written, isEnding, rfl⟩ := executed.mp ran
    have kept : ∀ p ∈ f.params, ¬ lib.HasTemporary p →
        lib.kept M f given incoming p = some (final p) := by
      intro p isParam noTemporary
      rw [← holds p isParam, locals_final names isParam, if_neg noTemporary]
    have keyAfter := bind_kept accepted member names kept
    have passesEach : ∀ p ∈ f.params,
        lib.Passes M target (f.machineParam?.bind given) p (given p) (incoming p) := fun p isParam =>
      (passes_iff (convertible p isParam) (admitted p isParam)).mpr ⟨slot p, passes p isParam⟩
    refine ⟨incoming, final, outcome.result, passesEach, fun p isParam => ?_, ?_, ?_⟩
    · refine (leaves_iff (convertible p isParam) (passesEach p isParam)).mpr ?_
      split
      · rename_i hasTemporary
        have isBack := holds p isParam
        rw [locals_final names isParam, if_pos hasTemporary, Slot.value?_eq_some_iff] at isBack
        rw [← isBack, ← keyAfter]
        exact written p isParam hasTemporary
      · exact kept p isParam ‹_›
    · rw [answers_iff_ends accepted plain member routines (typed _), ← keyAfter]
      exact ⟨ending, isEnding, ended⟩
    · rw [calls_final] at calls
      rw [← calls, ← finals]
  · rintro ⟨incoming, final, result, passes, leaves, answers, rfl⟩
    have written := fun p isParam =>
      (leaves_iff (convertible p isParam) (passes p isParam)).mp (leaves p isParam)
    have kept : ∀ p ∈ f.params, ¬ lib.HasTemporary p →
        lib.kept M f given incoming p = some (final p) := by
      intro p isParam noTemporary
      have isKept := written p isParam
      rw [if_neg noTemporary] at isKept
      exact isKept
    have keyAfter := bind_kept accepted member names kept
    have someSlot : Nonempty (Slot F) := ⟨.absent⟩
    have slots : ∀ p ∈ f.params, ∃ slot,
        (lib.HasTemporary p → lib.Prepares M target (f.machineParam?.bind given) p (given p) slot) ∧
          lib.Provides M p (f.machineParam?.bind given) (given p)
            (if lib.HasTemporary p then slot else .ofArgument (given p)) (incoming p) :=
      fun p isParam => (passes_iff (convertible p isParam) (admitted p isParam)).mp (passes p isParam)
    choose! slot provides using slots
    obtain ⟨ending, isEnding, ended⟩ :=
      (answers_iff_ends accepted plain member routines (typed _)).mp answers
    refine ⟨parameters_fit_given admitted, ending, _,
      executed.mpr ⟨slot, incoming, fun p => .holds (final p), provides,
        fun p isParam hasTemporary => ?_, ?_, rfl⟩,
      ended, ⟨final, rfl, fun p isParam => ?_⟩, calls_final.symm⟩
    · have back := written p isParam
      rw [if_pos hasTemporary] at back
      rw [keyAfter]
      exact back
    · rw [keyAfter]
      exact isEnding
    · rw [locals_final names isParam]
      split
      · rfl
      · exact kept p isParam ‹_›

end Library

end InteropGlue
