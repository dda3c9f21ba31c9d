import InteropGlue.Proofs.Glue.FunctionCalls
/-!
# After the call of an entry point

Handles are kept alive, what the callee left in the temporaries is converted back into their
parameters, and the result is converted and returned. No parameter that is written back is the key,
so one key serves all of these conversions.

## Main Definitions

* `Library.WritesBack` — what is written back into a parameter.
* `Library.Returns` — the value that is returned.

## Main Results

* `Library.exec_writeBacks_iff` — writing all parameters back.
* `Library.exec_returnSteps_iff` — returning the result.
-/

namespace InteropGlue

open CSharp

namespace Library

variable {F : Framework} {lib : Library} {M : Machine F} {σ τ : State F} {target : Target}
  {f : Function} {p : Param} {value : Value F} {rest : List Step} {run : Ending F × State F}

/-- Keeping handles alive changes nothing. -/
theorem exec_keepAlives
    (readable : ∀ p ∈ lib.paramsOfKind f .handle false, ∃ value, σ.read (.name p.name) = some value) :
    exec M σ (.ofSteps (lib.keepAlives f ++ rest)) = exec M σ (.ofSteps rest) := by
  rw [keepAlives, buckets]
  generalize lib.paramsOfKind f .handle false = handles at readable
  induction handles with
  | nil => rfl
  | cons p handles ih =>
    rw [List.forall_mem_cons] at readable
    obtain ⟨⟨value, read⟩, others⟩ := readable
    have evaluated : eval M σ (.call (.member (.name "GC") "KeepAlive") [.value (.name p.name)]) =
        some (.nothing, σ) := by
      simp [eval, evalArgs, Arg.value, read]
    rw [List.map_cons, List.cons_append, Block.ofSteps, List.foldr_cons, keepAlive, exec, evaluated]
    exact ih others

/-! ### Writing back -/

/-- What is written back into a parameter, by the key, the value of the parameter and what the
callee left in its temporary. -/
def WritesBack (lib : Library) (M : Machine F) (target : Target) (key : Option (Value F))
    (p : Param) (given native : Option (Value F)) (slot : Slot F) : Prop :=
  ∃ keyValue nativeValue, key = some keyValue ∧ native = some nativeValue ∧
    if lib.kindOf p.type = .classType then
      ∃ start final,
        (if p.isOut then
          M.construct? (lib.typeName (.application target) p.type) = some start
        else given = some start) ∧
          M.Fills "CopyWrap" .byValue keyValue nativeValue start final ∧
            slot = .holds (start.afterCall final)
    else ∃ value, M.Converts "Wrap" keyValue nativeValue value ∧ slot = .holds value

/-- A handle or struct is written back. -/
theorem exec_valueWriteBack_iff (routines : M.routines = lib.routines target)
    (notFixed : p.name ∉ σ.fixed) (present : σ.locals p.name ≠ .absent) :
    exec M σ (.ofSteps ([valueWriteBack p] ++ rest)) = some run ↔
      ∃ value, (∃ key native, σ.read machineExpr = some key ∧
          σ.read (.name p.temporary) = some native ∧ M.Converts "Wrap" key native value) ∧
        exec M (σ.set p.name (.holds value)) (.ofSteps rest) = some run := by
  have assigned : ∀ {value : Value F} {after}, σ.assign (.name p.name) value = some after ↔
      after = σ.set p.name (.holds value) := by
    intro value after
    rw [State.assign, if_neg notFixed, State.store_name present, Option.some.injEq, eq_comm]
  rw [List.singleton_append, Block.ofSteps, List.foldr_cons, valueWriteBack, exec_assign_iff]
  simp only [wrapCall, eval_convertName_iff routines]
  constructor
  · rintro ⟨value, _, after, ⟨converts, rfl⟩, isAssigned, ran⟩
    obtain rfl := assigned.mp isAssigned
    exact ⟨value, converts, ran⟩
  · rintro ⟨value, converts, ran⟩
    exact ⟨value, σ, _, ⟨converts, rfl⟩, assigned.mpr rfl, ran⟩

/-- An instance is filled from the temporary. -/
theorem exec_fillWriteBack_iff (routines : M.routines = lib.routines target) :
    exec M σ (.step (.evaluate (.callOwn "CopyWrap" [machineExpr, .name p.temporary, .name p.name]))
        (.ofSteps rest)) = some run ↔
      ∃ start final, (∃ key native, σ.read machineExpr = some key ∧
          σ.read (.name p.temporary) = some native ∧ σ.read (.name p.name) = some start ∧
            M.Fills "CopyWrap" .byValue key native start final) ∧
        exec M (σ.set p.name (.holds (start.afterCall final))) (.ofSteps rest) = some run := by
  have places : ∀ e ∈ [machineExpr, .name p.temporary, .name p.name], e.isPlace = true := by
    simp [machineExpr]
  have source : PlaceOf p.temporary (fun _ => False) (.name p.temporary) := .name
  have dest : PlaceOf p.name (fun _ => False) (.name p.name) := .name
  have filled : ∀ {key native start τ}, σ.read machineExpr = some key →
      σ.read (.name p.temporary) = some native → σ.read (.name p.name) = some start → (_ ↔ _) :=
    fun {key native start τ} keyRead read startRead =>
      @eval_fill F M σ τ key native start "CopyWrap" p.temporary p.name (fun _ => False)
        (.name p.temporary) (.name p.name) .byValue (by simp)
        (State.read_name_eq_some_iff.mp keyRead) source read dest (.of_name startRead)
        fun invoked => (quiet routines).fill invoked
  have stored : ∀ {start value : Value F} {τ}, σ.read (.name p.name) = some start →
      (σ.store (.name p.name) value = some τ ↔ τ = σ.set p.name (.holds value)) := by
    intro start value τ startRead
    have present : σ.locals p.name ≠ .absent := by
      simp [State.read_name_eq_some_iff.mp startRead]
    rw [State.store_name present, Option.some.injEq, eq_comm]
  rw [exec_evaluate_iff]
  constructor
  · rintro ⟨value, τ, evaluated, ran⟩
    have isRead : ∀ e ∈ [machineExpr, .name p.temporary, .name p.name], ∃ found,
        σ.read e = some found := fun e isArg => exists_read_of_call places isArg evaluated
    obtain ⟨key, keyRead⟩ := isRead machineExpr (by simp)
    obtain ⟨native, read⟩ := isRead (.name p.temporary) (by simp)
    obtain ⟨start, startRead⟩ := isRead (.name p.name) (by simp)
    obtain ⟨final, fills, isStored⟩ := (filled keyRead read startRead).mp ⟨value, evaluated⟩
    obtain rfl := (stored startRead).mp isStored
    exact ⟨start, final, ⟨key, native, keyRead, read, startRead, fills⟩, ran⟩
  · rintro ⟨start, final, ⟨key, native, keyRead, read, startRead, fills⟩, ran⟩
    obtain ⟨value, evaluated⟩ := (filled keyRead read startRead).mpr
      ⟨final, fills, (stored startRead).mpr rfl⟩
    exact ⟨value, _, evaluated, ran⟩

/-- A new instance is assigned and then filled from the temporary. -/
theorem exec_newWriteBack_iff (routines : M.routines = lib.routines target) {type : String}
    (notFixed : p.name ∉ σ.fixed) (present : σ.locals p.name ≠ .absent)
    (notTemporary : p.name ≠ p.temporary) (notKey : p.name ≠ machineParam) :
    exec M σ (.step (.assign (.name p.name) (.create type [])) (.step
        (.evaluate (.callOwn "CopyWrap" [machineExpr, .name p.temporary, .name p.name]))
          (.ofSteps rest))) = some run ↔
      ∃ start final, M.construct? type = some start ∧
        (∃ key native, σ.read machineExpr = some key ∧ σ.read (.name p.temporary) = some native ∧
          M.Fills "CopyWrap" .byValue key native start final) ∧
        exec M (σ.set p.name (.holds (start.afterCall final))) (.ofSteps rest) = some run := by
  have assigned : ∀ {start : Value F} {after}, σ.assign (.name p.name) start = some after ↔
      after = σ.set p.name (.holds start) := by
    intro start after
    rw [State.assign, if_neg notFixed, State.store_name present, Option.some.injEq, eq_comm]
  have keyRead : ∀ start : Value F, (σ.set p.name (.holds start)).read machineExpr =
      σ.read machineExpr := by
    intro start
    rw [machineExpr, State.read_name, State.read_name, State.locals_set_of_ne notKey.symm]
  have temporaryRead : ∀ start : Value F,
      (σ.set p.name (.holds start)).read (.name p.temporary) = σ.read (.name p.temporary) := by
    intro start
    rw [State.read_name, State.read_name, State.locals_set_of_ne notTemporary.symm]
  have startRead : ∀ start : Value F,
      (σ.set p.name (.holds start)).read (.name p.name) = some start := by
    intro start
    rw [State.read_name_eq_some_iff, State.locals_set_self]
  simp only [exec_assign_iff, eval_create_iff]
  constructor
  · rintro ⟨made, _, after, ⟨constructed, rfl⟩, isAssigned, ran⟩
    obtain rfl := assigned.mp isAssigned
    obtain ⟨start, final, ⟨key, native, isKey, isNative, isStart, fills⟩, ran⟩ :=
      (exec_fillWriteBack_iff routines).mp ran
    rw [keyRead] at isKey
    rw [temporaryRead] at isNative
    obtain rfl := Option.some.inj ((startRead made).symm.trans isStart)
    rw [State.set_set] at ran
    exact ⟨made, final, constructed, ⟨key, native, isKey, isNative, fills⟩, ran⟩
  · rintro ⟨start, final, constructed, ⟨key, native, isKey, isNative, fills⟩, ran⟩
    refine ⟨start, σ, _, ⟨constructed, rfl⟩, assigned.mpr rfl, (exec_fillWriteBack_iff routines).mpr
      ⟨start, final, ⟨key, native, ?_, ?_, startRead start, fills⟩, ?_⟩⟩
    · rw [keyRead, isKey]
    · rw [temporaryRead, isNative]
    · rwa [State.set_set]

/-- One parameter is written back. -/
theorem exec_writeBackSteps_iff (routines : M.routines = lib.routines target)
    (hasTemporary : lib.HasTemporary p) (convertible : lib.Convertible p)
    (notFixed : p.direction.passing ≠ .byValue → p.name ∉ σ.fixed)
    (present : σ.locals p.name ≠ .absent) (notTemporary : p.name ≠ p.temporary)
    (notKey : p.name ≠ machineParam) :
    exec M σ (.ofSteps (lib.writeBackSteps target p ++ rest)) = some run ↔
      ∃ slot, lib.WritesBack M target (σ.read machineExpr) p (σ.read (.name p.name))
          (σ.read (.name p.temporary)) slot ∧
        exec M (σ.set p.name slot) (.ofSteps rest) = some run := by
  by_cases kind : lib.kindOf p.type = .classType
  · simp only [writeBackSteps, kind, if_true, classWriteBack, WritesBack]
    by_cases isOut : p.isOut = true
    · have passed : p.direction.passing ≠ .byValue := by
        have output : p.direction = .output := by simpa [Param.isOut] using isOut
        simp [output, Direction.passing]
      simp only [isOut, if_true]
      refine (exec_newWriteBack_iff routines (notFixed passed) present notTemporary notKey).trans ?_
      constructor
      · rintro ⟨start, final, constructed, ⟨key, native, keyRead, read, fills⟩, ran⟩
        exact ⟨_, ⟨key, native, keyRead, read, start, final, constructed, fills, rfl⟩, ran⟩
      · rintro ⟨_, ⟨key, native, keyRead, read, start, final, constructed, fills, rfl⟩, ran⟩
        exact ⟨start, final, constructed, ⟨key, native, keyRead, read, fills⟩, ran⟩
    · simp only [isOut, Bool.false_eq_true, if_false]
      refine (exec_fillWriteBack_iff routines).trans ?_
      constructor
      · rintro ⟨start, final, ⟨key, native, keyRead, read, startRead, fills⟩, ran⟩
        exact ⟨_, ⟨key, native, keyRead, read, start, final, startRead, fills, rfl⟩, ran⟩
      · rintro ⟨_, ⟨key, native, keyRead, read, start, final, startRead, fills, rfl⟩, ran⟩
        exact ⟨start, final, ⟨key, native, keyRead, read, startRead, fills⟩, ran⟩
  · have notBuffer : p.direction ≠ .buffer := by
      refine convertible.2.1 ?_
      rcases hasTemporary.1 with handle | struct | isClass
      · exact .inl handle
      · exact .inr struct
      · exact absurd isClass kind
    have passed : p.direction.passing ≠ .byValue := by
      have isWritten := hasTemporary.2
      cases direction : p.direction <;> simp_all [Direction.passing, Param.isWritten]
    simp only [writeBackSteps, kind, if_false, WritesBack,
      exec_valueWriteBack_iff routines (notFixed passed) present]
    constructor
    · rintro ⟨value, ⟨key, native, keyRead, read, converts⟩, ran⟩
      exact ⟨_, ⟨key, native, keyRead, read, value, converts, rfl⟩, ran⟩
    · rintro ⟨_, ⟨key, native, keyRead, read, value, converts, rfl⟩, ran⟩
      exact ⟨value, ⟨key, native, keyRead, read, converts⟩, ran⟩

/-- All written parameters are written back one after the other. -/
theorem exec_writeBacks_iff (routines : M.routines = lib.routines target) (names : f.DistinctNames)
    (convertible : ∀ p ∈ f.params, lib.Convertible p)
    (notFixed : ∀ p ∈ f.params, p.direction.passing ≠ .byValue → p.name ∉ σ.fixed)
    (present : ∀ p ∈ f.params, σ.locals p.name ≠ .absent)
    (notKey : ∀ p ∈ f.params, lib.Crossing p.type → p.name ≠ machineParam) :
    exec M σ (.ofSteps (lib.writeBacks target f ++ rest)) = some run ↔
      ∃ slot : Param → Slot F,
        (∀ p ∈ lib.temporaryParams f, lib.WritesBack M target (σ.read machineExpr) p
          (σ.read (.name p.name)) (σ.read (.name p.temporary)) (slot p)) ∧
          exec M (σ.setEach (lib.temporaryParams f) Param.name slot) (.ofSteps rest) = some run := by
  rw [writeBacks_eq]
  refine exec_each_iff (fun σ' p => σ'.fixed = σ.fixed ∧
      σ'.read machineExpr = σ.read machineExpr ∧ σ'.locals p.temporary = σ.locals p.temporary ∧
        σ'.locals p.name = σ.locals p.name) (nodup_temporaryParams names.params.of_map) ?_ ?_ ?_
  · rintro p member σ' ⟨sameFixed, sameKey, sameTemporary, sameValue⟩ rest
    obtain ⟨isParam, hasTemporary⟩ := mem_temporaryParams.mp member
    rw [exec_writeBackSteps_iff routines hasTemporary (convertible p isParam)
      (sameFixed ▸ notFixed p isParam) (sameValue ▸ present p isParam)
      (names.notTemporary p isParam p isParam) (notKey p isParam hasTemporary.1), sameKey,
      State.read_name, State.read_name, sameTemporary, sameValue, State.read_name, State.read_name]
  · rintro p member q alsoMember different σ' slot ⟨sameFixed, sameKey, sameTemporary, sameValue⟩
    obtain ⟨isParam, hasTemporary⟩ := mem_temporaryParams.mp member
    obtain ⟨alsoParam, -⟩ := mem_temporaryParams.mp alsoMember
    have apart : q.name ≠ p.name := fun same => different
      (List.inj_on_of_nodup_map names.params alsoParam isParam same)
    refine ⟨sameFixed, ?_, ?_, ?_⟩
    · rw [← sameKey, machineExpr, State.read_name, State.read_name,
        State.locals_set_of_ne (notKey p isParam hasTemporary.1).symm]
    · rw [← sameTemporary, State.locals_set_of_ne (names.notTemporary p isParam q alsoParam).symm]
    · rw [← sameValue, State.locals_set_of_ne apart]
  · exact fun p _ => ⟨rfl, rfl, rfl, rfl⟩

/-! ### The result -/

/-- The value that the body returns, by the key and the result of the call. -/
def Returns (lib : Library) (M : Machine F) (type : TypeRef) (key : Option (Value F))
    (native value : Value F) : Prop :=
  if lib.Crossing type then ∃ keyValue, key = some keyValue ∧ M.Converts "Wrap" keyValue native value
  else if lib.kindOf type = .bool then
    M.invoke? "ToBool" [(.byValue, some native)] = some ([native], value)
  else value = native

/-- The result is returned. -/
theorem exec_returnSteps_iff (routines : M.routines = lib.routines target) {ending : Ending F}
    {native : Value F}
    (read : f.returnType.isVoid = false → σ.read (.name resultName) = some native) :
    exec M σ (.ofSteps (lib.returnSteps f)) = some (ending, τ) ↔
      (if f.returnType.isVoid then ending = .next
      else ∃ value, lib.Returns M f.returnType (σ.read machineExpr) native value ∧
        ending = .left (some value)) ∧ τ = σ := by
  have returned : ∀ {e : Expr} {returns : Value F → Prop},
      (∀ value τ, eval M σ e = some (value, τ) ↔ returns value ∧ τ = σ) →
        (exec M σ (.ofSteps [.leave (some e)]) = some (ending, τ) ↔
          (∃ value, returns value ∧ ending = .left (some value)) ∧ τ = σ) := by
    intro e returns evaluated
    rw [Block.ofSteps, List.foldr_cons, exec_leave_iff]
    simp only [evaluated]
    constructor
    · rintro ⟨value, ⟨isValue, rfl⟩, rfl⟩
      exact ⟨⟨value, isValue, rfl⟩, rfl⟩
    · rintro ⟨⟨value, isValue, rfl⟩, rfl⟩
      exact ⟨value, ⟨isValue, rfl⟩, rfl⟩
  by_cases isVoid : f.returnType.isVoid = true
  · have kind : lib.kindOf f.returnType = .void :=
      kindOf_eq_void_iff.mpr (TypeRef.isVoid_iff.mp isVoid)
    rw [returnSteps, kind, if_pos isVoid]
    exact exec_done_iff
  have found := read (by simpa using isVoid)
  rw [if_neg isVoid]
  by_cases crossing : lib.Crossing f.returnType
  · have steps : lib.returnSteps f = [.leave (some (wrapCall (.name resultName)))] := by
      rcases crossing with kind | kind | kind <;> rw [returnSteps, kind]
    rw [steps, returned fun value τ => ?_]
    simp only [wrapCall, eval_convertName_iff routines, found, Returns, if_pos crossing,
      Option.some.injEq, exists_and_left, exists_eq_left']
  · by_cases isBool : lib.kindOf f.returnType = .bool
    · have steps : lib.returnSteps f = [.leave (some (.callOwn "ToBool" [.name resultName]))] := by
        rw [returnSteps, isBool]
      have toBool : ∀ {value : Value F} {τ}, eval M σ (.callOwn "ToBool" [.name resultName]) =
          some (value, τ) ↔ _ := fun {value τ} => eval_convertBoolName_iff routines .wrap
      rw [steps, returned fun value τ => ?_]
      simp only [toBool, found, Returns, if_neg crossing, if_pos isBool, Option.some.injEq,
        exists_eq_left']
      rfl
    · have steps : lib.returnSteps f = [.leave (some (.name resultName))] := by
        have notVoid : lib.kindOf f.returnType ≠ .void := fun kind =>
          isVoid (TypeRef.isVoid_iff.mpr (kindOf_eq_void_iff.mp kind))
        rw [Crossing] at crossing
        rw [returnSteps]
        split <;> simp_all
      rw [steps, returned fun value τ => ?_]
      rw [eval_place_iff (isPlace_name _), found, Option.some.injEq, Returns, if_neg crossing,
        if_neg isBool, eq_comm]

end Library

end InteropGlue
