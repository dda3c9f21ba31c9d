import InteropGlue.Proofs.Glue.Overloads
import InteropGlue.Proofs.Glue.RecordRuns
/-!
# Runs of the conversions

The conversions of a class call each other. A copy of a record converts the parts of its source, so
what holds of the conversions of all parts of a value can be shown for the value itself. In this way
it is seen that no conversion changes the key or its source.

## Main Definitions

* `Library.machine` — the types, methods and entry points around the functions of a library.
* `Library.Allocates` — what a conversion into a new record gives.

## Main Results

* `Library.run_allocatingRoutine_iff`, `run_wrapHandleRoutine_iff`, … — the routines one by one.
* `Library.quiet` — the conversions leave the key and the source as they are.
-/

namespace InteropGlue

open CSharp

variable {F : Framework} {M : Machine F} {σ τ : State F} {key source value : Value F}
  {target : Target} {conversion : Conversion} {outcome : Outcome F}

/-! ### Handles and booleans -/

section Scalars

variable {type : String}

theorem eval_compare_literal {comparison : Comparison} {e : Expr} {given : Value F}
    (isPlace : e.isPlace = true) (read : σ.read e = some given) (literal : Nat) :
    eval M σ (.compare comparison e (.number literal)) =
      (Value.compare comparison given (.number "int" literal)).map fun truth =>
        (.truth truth, σ) := by
  rw [eval, eval_place isPlace, read]
  simp only [Option.map_some, Option.bind_eq_bind, Option.bind_some, eval_number]
  cases Value.compare comparison given (.number "int" literal) <;> rfl

/-- A handle object is made from the key and a native handle. -/
theorem eval_createObject_iff {e : Expr} (keyRead : σ.read machineExpr = some key)
    (isPlace : e.isPlace = true) (read : σ.read e = some source) :
    eval M σ (.create handleType [.value machineExpr, .value e]) = some (value, τ) ↔
      (∃ keyType keyNumber type number, key = .number keyType keyNumber ∧
        source = .number type number ∧ value = .object (F.handleObject keyNumber number)) ∧
          τ = σ := by
  have still : ∀ arg ∈ [Arg.value machineExpr, .value e], arg.expr.IsStill M σ := by
    simp only [List.mem_cons, List.not_mem_nil, or_false, forall_eq_or_imp, forall_eq]
    exact ⟨.of_place rfl, .of_place isPlace⟩
  have evaluated : ∀ {given middle}, evalArgs M σ [.value machineExpr, .value e] =
      some (given, middle) ↔
        given = [(.byValue, some key), (.byValue, some source)] ∧ middle = σ := by
    intro given middle
    rw [evalArgs_iff still]
    simp only [List.forall₂_cons_left_iff, List.forall₂_nil_left_iff, gives_value rfl keyRead,
      gives_value isPlace read]
    simp
  rw [eval, evaluated.mpr ⟨rfl, rfl⟩]
  simp only [Option.bind_eq_bind, Option.bind_some]
  cases key <;> cases source <;> simp [eq_comm]

/-- The truth value of a native boolean is whether it is not zero. -/
theorem run_toBoolRoutine_iff :
    M.run? toBoolRoutine [some source] = some outcome ↔
      ∃ type number, source = .number type number ∧
        outcome = ⟨[], [source], .truth (number != 0)⟩ := by
  have executed : ∀ ending τ, exec M (.start [plainParameter .byValue nativeBool "value"]
        [some source]) (.ofSteps [.leave (some (.compare .notEqual (.name "value") (.number 0)))]) =
          some (ending, τ) ↔
      (∃ type number, source = .number type number ∧
        ending = .left (some (.truth (number != 0)))) ∧
          τ = .start [plainParameter .byValue nativeBool "value"] [some source] := by
    intro ending τ
    have read : (State.start [plainParameter .byValue nativeBool "value"] [some source]).read
        (.name "value") = some source := by
      simp [State.read_name, plainParameter, Slot.ofArgument, Slot.value?]
    rw [Block.ofSteps, List.foldr_cons, exec_leave_iff, eval_compare_literal (isPlace_name _) read]
    cases source <;> simp [Value.compare, eq_comm, and_comm]
  rw [toBoolRoutine, show [some source] = [source].map some from rfl]
  refine (Machine.run?_iff_of_still ?_ ?_ executed).trans ?_
  · simp
  · simp [plainParameter]
  constructor
  · rintro ⟨_, result, ⟨type, number, rfl, rfl⟩, returned, rfl⟩
    obtain rfl := Option.some.inj returned
    exact ⟨type, number, rfl, rfl⟩
  · rintro ⟨type, number, rfl, rfl⟩
    exact ⟨_, _, ⟨type, number, rfl, rfl⟩, rfl, rfl⟩

/-- The native boolean of a truth value is one or zero. -/
theorem run_toNativeBoolRoutine_iff :
    M.run? toNativeBoolRoutine [some source] = some outcome ↔
      ∃ truth, source = .truth truth ∧
        outcome = ⟨[], [source], .number nativeBool (if truth then 1 else 0)⟩ := by
  have executed : ∀ ending τ, exec M (.start [plainParameter .byValue "bool" "value"]
        [some source])
          (.ofSteps [.leave (some (.choose (.name "value") (.number 1) (.number 0)))]) =
          some (ending, τ) ↔
      (∃ truth, source = .truth truth ∧
        ending = .left (some (.number "int" (if truth then 1 else 0)))) ∧
          τ = .start [plainParameter .byValue "bool" "value"] [some source] := by
    intro ending τ
    have read : (State.start [plainParameter .byValue "bool" "value"] [some source]).read
        (.name "value") = some source := by
      simp [State.read_name, plainParameter, Slot.ofArgument, Slot.value?]
    rw [Block.ofSteps, List.foldr_cons, exec_leave_iff, eval, eval_place (isPlace_name _), read]
    cases source with
    | truth truth => cases truth <;> simp [Value.truth?, eval_number, eq_comm, and_comm]
    | _ => simp [Value.truth?]
  rw [toNativeBoolRoutine, show [some source] = [source].map some from rfl]
  refine (Machine.run?_iff_of_still ?_ ?_ executed).trans ?_
  · simp
  · simp [plainParameter]
  constructor
  · rintro ⟨_, result, ⟨truth, rfl, rfl⟩, returned, rfl⟩
    obtain rfl := Option.some.inj returned
    exact ⟨truth, rfl, rfl⟩
  · rintro ⟨truth, rfl, rfl⟩
    exact ⟨_, _, ⟨truth, rfl, rfl⟩, rfl, rfl⟩

/-- What a conversion of handles starts with. -/
theorem read_start_handle {type name : String} (apart : name ≠ machineParam) :
    (State.start [machineParameter, plainParameter .byValue type name]
        [some key, some source]).read machineExpr = some key ∧
      (State.start [machineParameter, plainParameter .byValue type name]
        [some key, some source]).read (.name name) = some source := by
  simp [State.read_name, machineExpr, machineParameter, plainParameter, apart, Slot.ofArgument,
    Slot.value?]

/-- The object of a native handle knows the key and the handle. -/
theorem run_wrapHandleRoutine_iff :
    M.run? (wrapHandleRoutine target) [some key, some source] = some outcome ↔
      ∃ keyType keyNumber type number, key = .number keyType keyNumber ∧
        source = .number type number ∧
          outcome = ⟨[], [key, source], .object (F.handleObject keyNumber number)⟩ := by
  have executed : ∀ ending τ, exec M
      (.start [machineParameter, plainParameter .byValue target.handleName "handle"]
        [some key, some source])
      (.ofSteps
        [.leave (some (.create handleType [.value machineExpr, .value (.name "handle")]))]) =
          some (ending, τ) ↔
      (∃ keyType keyNumber type number, key = .number keyType keyNumber ∧
        source = .number type number ∧
          ending = .left (some (.object (F.handleObject keyNumber number)))) ∧
        τ = .start [machineParameter, plainParameter .byValue target.handleName "handle"]
          [some key, some source] := by
    intro ending τ
    obtain ⟨keyRead, read⟩ := @read_start_handle F key source target.handleName "handle" (by decide)
    rw [Block.ofSteps, List.foldr_cons, exec_leave_iff]
    simp only [eval_createObject_iff keyRead (isPlace_name _) read]
    constructor
    · rintro ⟨_, ⟨⟨keyType, keyNumber, type, number, rfl, rfl, rfl⟩, rfl⟩, rfl⟩
      exact ⟨⟨keyType, keyNumber, type, number, rfl, rfl, rfl⟩, rfl⟩
    · rintro ⟨⟨keyType, keyNumber, type, number, rfl, rfl, rfl⟩, rfl⟩
      exact ⟨_, ⟨⟨keyType, keyNumber, type, number, rfl, rfl, rfl⟩, rfl⟩, rfl⟩
  rw [wrapHandleRoutine, show [some key, some source] = [key, source].map some from rfl]
  refine (Machine.run?_iff_of_still ?_ ?_ executed).trans ?_
  · simp [machineParameter, plainParameter, machineParam]
  · simp [machineParameter, plainParameter]
  constructor
  · rintro ⟨_, result, ⟨keyType, keyNumber, type, number, rfl, rfl, rfl⟩, returned, rfl⟩
    obtain rfl := Option.some.inj returned
    exact ⟨keyType, keyNumber, type, number, rfl, rfl, rfl⟩
  · rintro ⟨keyType, keyNumber, type, number, rfl, rfl, rfl⟩
    exact ⟨_, _, ⟨keyType, keyNumber, type, number, rfl, rfl, rfl⟩, rfl, rfl⟩

/-- The body of the conversion leaves with zero for no object and with the cut handle for one. -/
theorem exec_unwrapHandle_iff {ending : Ending F}
    (read : σ.read (.name "objectHandle") = some source) :
    exec M σ
      (.guarded (.compare .equal (.name "objectHandle") .null)
        (.ofSteps [.leave (some (.number 0))])
        (.ofSteps [.leave (some (.cast target.handleName
          (.member (.name "objectHandle") "Handle")))])) = some (ending, τ) ↔
      (∃ handle, (if source.isNull then handle = .number "int" 0
          else ∃ whole, source.member "Handle" = some whole ∧
            whole.cast target.handleName = some handle) ∧ ending = .left (some handle)) ∧
        τ = σ := by
  have isNull : eval M σ (.compare .equal (.name "objectHandle") .null) =
      some (.truth source.isNull, σ) := by
    rw [eval_isNull (isPlace_name _), read]
    rfl
  have casted : ∀ {value τ}, eval M σ (.cast target.handleName
      (.member (.name "objectHandle") "Handle")) = some (value, τ) ↔
        (∃ whole, source.member "Handle" = some whole ∧
          whole.cast target.handleName = some value) ∧ τ = σ := by
    intro value τ
    rw [eval, eval_place (isPlace_member _ _), State.read_member, read, Option.bind_some]
    cases source.member "Handle" with
    | none => simp
    | some whole => cases found : whole.cast target.handleName <;> simp [found, eq_comm]
  rw [exec_guarded isNull]
  by_cases missing : source.isNull = true
  · simp only [missing, if_true, Block.ofSteps, List.foldr_cons, Option.bind_eq_some_iff,
      Prod.exists, exec_leave_iff, eval_number, Option.some.injEq, Prod.mk.injEq,
      exists_eq_left]
    constructor
    · rintro ⟨_, _, ⟨_, ⟨rfl, rfl⟩, rfl⟩, rfl, rfl⟩
      exact ⟨rfl, rfl⟩
    · rintro ⟨rfl, rfl⟩
      exact ⟨_, _, ⟨_, ⟨rfl, rfl⟩, rfl⟩, rfl⟩
  · simp only [missing, Bool.false_eq_true, if_false, Block.ofSteps, List.foldr_cons,
      exec_leave_iff, casted]
    constructor
    · rintro ⟨value, ⟨gives, rfl⟩, rfl⟩
      exact ⟨⟨value, gives, rfl⟩, rfl⟩
    · rintro ⟨⟨value, gives, rfl⟩, rfl⟩
      exact ⟨value, ⟨gives, rfl⟩, rfl⟩

/-- The native handle of no object is zero, and that of an object is cut to its width. -/
theorem run_unwrapHandleRoutine_iff :
    M.run? (unwrapHandleRoutine target) [some key, some source] = some outcome ↔
      ∃ handle, (if source.isNull then handle = .number target.handleName 0
          else ∃ whole, source.member "Handle" = some whole ∧
            whole.cast target.handleName = some handle) ∧
        outcome = ⟨[], [key, source], handle⟩ := by
  have executed := fun ending τ => @exec_unwrapHandle_iff F M
    (.start [machineParameter, plainParameter .byValue handleType "objectHandle"]
      [some key, some source]) τ source target ending
    (read_start_handle (show "objectHandle" ≠ machineParam by decide)).2
  rw [unwrapHandleRoutine, show [some key, some source] = [key, source].map some from rfl]
  refine (Machine.run?_iff_of_still ?_ ?_ executed).trans ?_
  · simp [machineParameter, plainParameter, machineParam]
  · simp [machineParameter, plainParameter]
  have literal : (Ending.left (some (.number "int" 0 : Value F))).result? target.handleName =
      some (.number target.handleName 0) := by
    cases target <;> rfl
  have returned : ∀ whole handle : Value F, whole.cast target.handleName = some handle →
      (Ending.left (some handle)).result? target.handleName = some handle := by
    intro whole handle casted
    cases whole with
    | number type value =>
      cases target <;> obtain rfl := Option.some.inj casted <;> rfl
    | _ => simp [Value.cast] at casted
  by_cases missing : source.isNull = true
  · simp only [missing, if_true]
    constructor
    · rintro ⟨_, _, ⟨_, rfl, rfl⟩, ended, rfl⟩
      rw [literal] at ended
      exact ⟨_, (Option.some.inj ended).symm, rfl⟩
    · rintro ⟨_, rfl, rfl⟩
      exact ⟨_, _, ⟨_, rfl, rfl⟩, literal, rfl⟩
  · simp only [missing, Bool.false_eq_true, if_false]
    constructor
    · rintro ⟨_, _, ⟨handle, ⟨whole, found, casted⟩, rfl⟩, ended, rfl⟩
      rw [returned whole handle casted] at ended
      obtain rfl := Option.some.inj ended
      exact ⟨_, ⟨whole, found, casted⟩, rfl⟩
    · rintro ⟨handle, ⟨whole, found, casted⟩, rfl⟩
      exact ⟨_, _, ⟨handle, ⟨whole, found, casted⟩, rfl⟩, returned whole handle casted, rfl⟩

end Scalars

/-! ### Conversions into new records -/

namespace Library

variable {lib : Library} {isClass : Bool} {record : Record} {ending : Ending F}

/-- What a conversion of a record gives: no instance for none, and else a new one that is filled. -/
def Allocates (lib : Library) (M : Machine F) (target : Target) (conversion : Conversion)
    (isClass : Bool) (record : Record) (key source value : Value F) : Prop :=
  let destType := lib.typeName (conversion.destMode target) (.named record.name)
  if isClass ∧ source.isNull then (Value.null nullType).returnedAs destType = some value
  else
    ∃ start final, M.construct? destType = some start ∧
      M.Fills conversion.copyRoutine (if isClass then .byValue else .ref) key source start final ∧
        (if isClass then start.afterCall final else final).returnedAs destType = some value

/-- A copy called with a source leaves the source as it is. -/
def KeepsSource (M : Machine F) (conversion : Conversion) (key source : Value F) : Prop :=
  ∀ passing given finals result, M.invoke? conversion.copyRoutine
    [(.byValue, some key), (.byValue, some source), (passing, some given)] =
      some (finals, result) → ∃ final, finals = [key, source, final]

/-- A new instance is made, filled and returned. -/
theorem exec_allocate_iff {passing : Passing} {destType : String} (input : passing ≠ .out)
    (keyed : σ.locals machineParam = .holds key) (read : σ.read (.name "info") = some source)
    (absent : σ.locals resultName = .absent) (keeps : KeepsSource M conversion key source) :
    exec M σ (.ofSteps
        [.bind resultName (.create destType []),
          .evaluate (.call (.name conversion.copyRoutine)
            [.value machineExpr, .value (.name "info"), .pass passing (.name resultName)]),
          .leave (some (.name resultName))]) = some (ending, τ) ↔
      ∃ start final, M.construct? destType = some start ∧
        M.Fills conversion.copyRoutine passing key source start final ∧
          ending = .left (some (if passing = .byValue then start.afterCall final else final)) ∧
            τ = σ.set resultName
              (.holds (if passing = .byValue then start.afterCall final else final)) := by
  have result : PlaceOf resultName (fun _ => False) (.name resultName) := .name
  have info : PlaceOf "info" (fun _ => False) (.name "info") := .name
  have filled : ∀ {start τ}, _ ↔ _ := fun {start τ} =>
    @eval_fill F M (σ.set resultName (.holds start)) τ key source start conversion.copyRoutine
      "info" resultName (fun _ => False) (.name "info") (.name resultName) passing input
      (by rw [State.locals_set_of_ne (by decide), keyed]) info
      (by rw [info.read_set (by decide) (by simp), read]) result
      ⟨by rw [State.read_name, State.locals_set_self]; rfl,
        by rw [State.store, State.locals_set_self, State.set_set]⟩
      (fun {finals result} invoked => keeps passing start finals result invoked)
  simp only [Block.ofSteps, List.foldr_cons, List.foldr_nil, exec_bind_iff, eval_create_iff,
    exec_evaluate_iff, exec_leave_iff, eval_place_iff (isPlace_name _)]
  have stores : ∀ {start given : Value F} {τ : State F},
      (σ.set resultName (.holds start)).store (.name resultName) given = some τ ↔
        σ.set resultName (.holds given) = τ := by
    intro start given τ
    rw [State.store, State.locals_set_self, State.set_set, Option.some.injEq]
  have reads : ∀ given : Value F,
      (σ.set resultName (.holds given)).read (.name resultName) = some given := by
    intro given
    rw [State.read_name, State.locals_set_self]
    rfl
  constructor
  · rintro ⟨start, _, ⟨constructed, rfl⟩, -, value, middle, evaluated, returned, ⟨read, rfl⟩, rfl⟩
    obtain ⟨final, fills, stored⟩ := filled.mp ⟨value, evaluated⟩
    obtain rfl := stores.mp stored
    rw [reads] at read
    obtain rfl := Option.some.inj read
    exact ⟨start, final, constructed, fills, rfl, rfl⟩
  · rintro ⟨start, final, constructed, fills, rfl, rfl⟩
    obtain ⟨value, evaluated⟩ := filled.mpr ⟨final, fills, stores.mpr rfl⟩
    exact ⟨start, σ, ⟨constructed, rfl⟩, absent, value, _, evaluated, _, ⟨reads _, rfl⟩, rfl⟩

/-- The state in which a conversion of a record starts. -/
def allocateStart (sourceType : String) (key source : Value F) : State F :=
  .start [machineParameter, plainParameter .byValue sourceType "info"] [some key, some source]

theorem locals_allocateStart {sourceType : String} :
    (allocateStart sourceType key source).locals =
      Function.update (Function.update (fun _ => .absent) "info" (.holds source)) machineParam
        (.holds key) := rfl

/-- How a conversion of a record ends. -/
def AllocateEnds (M : Machine F) (conversion : Conversion) (isClass : Bool) (destType : String)
    (key source : Value F) (σ : State F) (ending : Ending F) (τ : State F) : Prop :=
  if isClass ∧ source.isNull then ending = .left (some (.null nullType)) ∧ τ = σ
  else
    ∃ start final, M.construct? destType = some start ∧
      M.Fills conversion.copyRoutine (if isClass then .byValue else .ref) key source start final ∧
        ending = .left (some (if isClass then start.afterCall final else final)) ∧
          τ = σ.set resultName (.holds (if isClass then start.afterCall final else final))

theorem exec_allocating_iff {destType : String} (keyed : σ.locals machineParam = .holds key)
    (read : σ.read (.name "info") = some source) (absent : σ.locals resultName = .absent)
    (keeps : KeepsSource M conversion key source) :
    exec M σ
        ((if isClass then
            Block.ifHolds (.compare .equal (.name "info") .null) (.ofSteps [.leave (some .null)])
          else .done) ++
          .ofSteps
            [.bind resultName (.create destType []),
              .evaluate (.call (.name conversion.copyRoutine)
                [.value machineExpr, .value (.name "info"),
                  .pass (if isClass then .byValue else .ref) (.name resultName)]),
              .leave (some (.name resultName))]) = some (ending, τ) ↔
      AllocateEnds M conversion isClass destType key source σ ending τ := by
  have isNull : eval M σ (.compare .equal (.name "info") .null) =
      some (.truth source.isNull, σ) := by
    rw [eval_isNull (isPlace_name _), read]
    rfl
  have allocated : ∀ passing : Passing, passing ≠ .out → (_ ↔ _) := fun passing input =>
    @exec_allocate_iff F M σ τ key source conversion ending passing destType input keyed read absent
      keeps
  rw [AllocateEnds]
  cases isClass with
  | false =>
    have done : ∀ block : Block, Block.done ++ block = block := fun _ => rfl
    simpa [done] using allocated .ref (by simp)
  | true =>
    have guard : ∀ condition body rest, Block.ifHolds condition body ++ rest =
        .guarded condition body rest := fun _ _ _ => rfl
    simp only [if_true, guard, exec_guarded isNull]
    by_cases missing : source.isNull = true
    · simp only [missing, if_true, and_self, Block.ofSteps, List.foldr_cons,
        Option.bind_eq_some_iff, Prod.exists, exec_leave_iff, eval_null, Option.some.injEq,
        Prod.mk.injEq]
      constructor
      · rintro ⟨_, _, ⟨_, ⟨rfl, rfl⟩, rfl⟩, rfl, rfl⟩
        exact ⟨rfl, rfl⟩
      · rintro ⟨rfl, rfl⟩
        exact ⟨_, _, ⟨_, ⟨rfl, rfl⟩, rfl⟩, rfl⟩
    · simpa [missing] using allocated .byValue (by simp)

/-- A conversion of a record leaves the key and its source as they are. -/
theorem run_allocatingRoutine_iff_ends (keeps : KeepsSource M conversion key source) :
    M.run? (lib.allocatingRoutine target conversion isClass record) [some key, some source] =
        some outcome ↔
      let sourceType := lib.typeName (conversion.sourceMode target) (.named record.name)
      let destType := lib.typeName (conversion.destMode target) (.named record.name)
      ∃ ending τ value, AllocateEnds M conversion isClass destType key source
          (allocateStart sourceType key source) ending τ ∧
        ending.result? destType = some value ∧ outcome = ⟨[], [key, source], value⟩ := by
  have keyed : (allocateStart (lib.typeName (conversion.sourceMode target) (.named record.name)) key
      source).locals machineParam = .holds key := by simp [locals_allocateStart]
  have read : (allocateStart (lib.typeName (conversion.sourceMode target) (.named record.name)) key
      source).read (.name "info") = some source := by
    simp [State.read_name, locals_allocateStart, machineParam, Slot.value?]
  have absent : (allocateStart (lib.typeName (conversion.sourceMode target) (.named record.name))
      key source).locals resultName = .absent := by
    simp [locals_allocateStart, machineParam, resultName]
  have executed : ∀ {ending τ}, _ ↔ _ := fun {ending τ} =>
    @exec_allocating_iff F M _ τ key source conversion isClass ending
      (lib.typeName (conversion.destMode target) (.named record.name)) keyed read absent keeps
  simp only [← executed]
  rw [allocatingRoutine, show [some key, some source] = [key, source].map some from rfl,
    Machine.run?_iff_of_keeps]
  · rfl
  · simp [machineParameter, plainParameter, machineParam]
  · simp [machineParameter, plainParameter]
  · intro ending τ ran
    have ended := executed.mp ran
    rw [AllocateEnds] at ended
    split at ended
    · obtain ⟨-, rfl⟩ := ended
      exact ⟨rfl, fun _ _ => rfl⟩
    · obtain ⟨_, _, -, -, -, rfl⟩ := ended
      refine ⟨rfl, fun p isParam => State.locals_set_of_ne ?_⟩
      simp only [List.mem_cons, List.not_mem_nil, or_false] at isParam
      rcases isParam with rfl | rfl
      · decide
      · exact show "info" ≠ resultName by decide

/-- What a conversion of a record gives. -/
theorem run_allocatingRoutine_iff (keeps : KeepsSource M conversion key source)
    (notVoid : lib.typeName (conversion.destMode target) (.named record.name) ≠ "void") :
    M.run? (lib.allocatingRoutine target conversion isClass record) [some key, some source] =
        some outcome ↔
      ∃ value, lib.Allocates M target conversion isClass record key source value ∧
        outcome = ⟨[], [key, source], value⟩ := by
  have returns : ∀ value : Value F, (Ending.left (some value)).result?
      (lib.typeName (conversion.destMode target) (.named record.name)) =
        value.returnedAs (lib.typeName (conversion.destMode target) (.named record.name)) := by
    intro value
    rw [Ending.result?, if_neg notVoid]
  rw [run_allocatingRoutine_iff_ends keeps]
  simp only [AllocateEnds, Allocates]
  split
  · constructor
    · rintro ⟨_, _, value, ⟨rfl, -⟩, ended, rfl⟩
      exact ⟨value, (returns _).symm.trans ended, rfl⟩
    · rintro ⟨value, returned, rfl⟩
      exact ⟨_, _, value, ⟨rfl, rfl⟩, (returns _).trans returned, rfl⟩
  · constructor
    · rintro ⟨_, _, value, ⟨start, final, constructed, fills, rfl, -⟩, ended, rfl⟩
      exact ⟨value, ⟨start, final, constructed, fills, (returns _).symm.trans ended⟩, rfl⟩
    · rintro ⟨value, ⟨start, final, constructed, fills, returned⟩, rfl⟩
      exact ⟨_, _, value, ⟨start, final, constructed, fills, rfl, rfl⟩,
        (returns _).trans returned, rfl⟩

/-! ### No conversion changes its source -/

section Quiet

variable (routines : M.routines = lib.routines target)
include routines

theorem quietBooleans : M.QuietBooleans := by
  intro conversion source finals result invoked
  obtain ⟨routine, found, ran⟩ := Machine.invoke?_iff.mp invoked
  have called := called_of_routine? routines found
  generalize conversion.boolRoutine = name at called
  cases called with
  | toBool =>
    obtain ⟨_, _, -, same⟩ := run_toBoolRoutine_iff.mp ran
    exact (Outcome.mk.inj same).2.1
  | toNativeBool =>
    obtain ⟨_, -, same⟩ := run_toNativeBoolRoutine_iff.mp ran
    exact (Outcome.mk.inj same).2.1

theorem keepsSource (quiet : QuietParts M key source) : KeepsSource M conversion key source := by
  intro passing given finals result invoked
  obtain ⟨routine, found, ran⟩ := Machine.invoke?_iff.mp invoked
  have called := called_of_routine? routines found
  generalize conversion.copyRoutine = name at called
  cases called with
  | copy => exact finals_of_copyRoutine (quietBooleans routines) quiet ran

/-- Conversions leave a source as it is if they leave its parts as they are. -/
theorem quiet_of_parts (quiet : QuietParts M key source) : M.Quiet key source := by
  intro name rest finals result invoked
  obtain ⟨routine, found, ran⟩ := Machine.invoke?_iff.mp invoked
  have called := called_of_routine? routines found
  cases called with
  | copy =>
    obtain ⟨final, same⟩ := finals_of_copyRoutine (quietBooleans routines) quiet ran
    exact ⟨[final], same, rfl⟩
  | allocate =>
    obtain ⟨_, _, _, -, -, same⟩ :=
      (run_allocatingRoutine_iff_ends (keepsSource routines quiet)).mp ran
    exact ⟨[], (Outcome.mk.inj same).2.1, rfl⟩
  | wrapHandle =>
    obtain ⟨_, _, _, _, -, -, same⟩ := run_wrapHandleRoutine_iff.mp ran
    exact ⟨[], (Outcome.mk.inj same).2.1, rfl⟩
  | unwrapHandle =>
    obtain ⟨_, -, same⟩ := run_unwrapHandleRoutine_iff.mp ran
    exact ⟨[], (Outcome.mk.inj same).2.1, rfl⟩

/-- The conversions leave the key and every part of a source as they are. -/
theorem quietWithin (source : Value F) (type : TypeRef) : M.QuietWithin key type source := by
  have ofParts : ∀ {whole : Value F}, QuietParts M key whole →
      (∀ position part, whole.element position = some part → ∀ type, M.QuietWithin key type part) →
        ∀ type, M.QuietWithin key type whole := by
    intro whole members elements type
    cases type with
    | named name => exact quiet_of_parts routines members
    | array element count => exact fun position part found => elements position part found element
  -- A length and a handle are numbers, which have no parts.
  have number : ∀ (spelled : String) (n : Int) type,
      M.QuietWithin key type (.number spelled n) := fun spelled n =>
    ofParts (fun _ _ found => by simp [Value.member] at found)
      fun _ _ found => by simp [Value.element] at found
  induction source generalizing type with
  | record spelled identity field ih =>
    refine ofParts (fun name part found => ?_) (fun _ _ found => by simp [Value.element] at found) type
    obtain rfl : field name = part := by simpa [Value.member] using found
    exact ih name
  | array elementType identity length element ih =>
    refine ofParts (fun name part found => ?_) (fun position part found => ?_) type
    · simp only [Value.member, Option.ite_none_right_eq_some, Option.some.injEq] at found
      rw [← found.2]
      exact number _ _
    · simp only [Value.element, Option.dite_none_right_eq_some, Option.some.injEq] at found
      obtain ⟨inside, rfl⟩ := found
      exact ih ⟨position, inside⟩
  | object handle =>
    refine ofParts (fun name part found => ?_) (fun _ _ found => by simp [Value.element] at found) type
    simp only [Value.member, Option.ite_none_right_eq_some, Option.some.injEq] at found
    rw [← found.2]
    exact number _ _
  | _ =>
    exact ofParts (fun _ _ found => by simp [Value.member] at found)
      (fun _ _ found => by simp [Value.element] at found) type

theorem quietParts : QuietParts M key source := fun _ part _ type => quietWithin routines part type

theorem quiet : M.Quiet key source := quiet_of_parts routines (quietParts routines)

end Quiet

/-! ### Types of converted values -/

section Types

/-- A type that is converted as a whole is the handle or a record. -/
theorem eq_handle_or_record {type : TypeRef} (crossing : lib.Crossing type) :
    type = .named handleType ∨ ∃ (isClass : Bool) (record : Record),
      record ∈ (if isClass then lib.classes else lib.structs) ∧ type = .named record.name := by
  obtain ⟨name, rfl⟩ := crossing.exists_named
  rcases crossing with handle | struct | isClass
  · exact .inl (congrArg TypeRef.named (kindOfName_eq_handle_iff.mp handle))
  · obtain ⟨record, declared, rfl⟩ := exists_record false struct
    exact .inr ⟨false, record, declared, rfl⟩
  · obtain ⟨record, declared, rfl⟩ := exists_record true isClass
    exact .inr ⟨true, record, declared, rfl⟩

variable (accepted : lib.Accepted) (plain : lib.PlainRecords)
include accepted plain

/-- What is spelled like a record is this record, if it is converted as a whole. -/
theorem eq_record_of_typeName {mode : Mode} {type : TypeRef} {isClass : Bool} {record : Record}
    (crossing : lib.Crossing type)
    (declared : record ∈ if isClass then lib.classes else lib.structs)
    (same : lib.typeName mode type = lib.typeName mode (.named record.name)) :
    type = .named record.name := by
  rcases eq_handle_or_record crossing with rfl | ⟨other, found, alsoDeclared, rfl⟩
  · rw [typeName_handle] at same
    exact absurd same.symm (typeName_record_ne_handle accepted plain mode declared)
  · obtain ⟨-, rfl⟩ := record_eq_of_typeName accepted plain declared alsoDeclared same.symm
    rfl

/-- What is spelled like the handle is the handle, if it is converted as a whole. -/
theorem eq_handle_of_typeName {mode : Mode} {type : TypeRef} (crossing : lib.Crossing type)
    (same : lib.typeName mode type = lib.typeName mode (.named handleType)) :
    type = .named handleType := by
  rcases eq_handle_or_record crossing with rfl | ⟨isClass, record, declared, rfl⟩
  · rfl
  · rw [typeName_handle] at same
    exact absurd same (typeName_record_ne_handle accepted plain mode declared)

/-- Converting a value of a type that is converted as a whole gives a value of its other spelling. -/
theorem type_of_converts (routines : M.routines = lib.routines target) {type : TypeRef}
    (crossing : lib.Crossing type)
    (sourced : source.type = lib.typeName (conversion.sourceMode target) type)
    (converts : M.Converts conversion.valueRoutine key source value) :
    value.type = lib.typeName (conversion.destMode target) type := by
  obtain ⟨routine, found, ran⟩ := Machine.invoke?_iff.mp converts
  have called := called_of_routine? routines found
  generalize isName : conversion.valueRoutine = name at called
  cases called with
  | @allocate other isClass record _ _ declared keyed alsoSourced =>
    obtain rfl : conversion = other := by
      revert isName
      cases conversion <;> cases other <;> decide
    have same := eq_record_of_typeName accepted plain crossing declared
      (sourced.symm.trans alsoSourced)
    rw [same]
    exact Machine.type_of_run? (typeName_record_ne_void plain _ declared) ran
  | wrapHandle keyed alsoSourced =>
    obtain rfl : conversion = .wrap := by
      revert isName
      cases conversion <;> decide
    have spelled : source.type = lib.typeName (.native target) (.named handleType) := by
      rw [typeName_handle]
      exact alsoSourced
    rw [eq_handle_of_typeName accepted plain crossing (sourced.symm.trans spelled)]
    exact Machine.type_of_run? (show handleType ≠ "void" by decide) ran
  | unwrapHandle keyed alsoSourced =>
    obtain rfl : conversion = .unwrap := by
      revert isName
      cases conversion <;> decide
    have spelled : source.type = lib.typeName (.application target) (.named handleType) := by
      rw [typeName_handle]
      exact alsoSourced
    rw [eq_handle_of_typeName accepted plain crossing (sourced.symm.trans spelled),
      Conversion.destMode_unwrap, typeName_handle]
    exact Machine.type_of_run? (show target.handleName ≠ "void" by cases target <;> decide) ran

end Types

end Library

end InteropGlue
