import InteropGlue.Proofs.CSharp.Steps
/-!
# Methods

A method starts with its arguments in its parameters and ends with what its body left there. A call
finds its method by name, keywords and types.

## Main Definitions

* `State.start` — the state in which a method starts.
* `Machine.Takes` — a parameter that takes an argument.

## Main Results

* `State.entering_iff` — the arguments with which a method starts.
* `Machine.run?_iff`, `Machine.invoke?_iff` — methods and calls of them.
* `Machine.routine?_of_unique` — a call finds the only method that takes its arguments.
-/

namespace InteropGlue.CSharp

variable {F : Framework} {M : Machine F} {value : Value F} {name : String}

theorem mapM_eq_some_iff {α β : Type} {f : α → Option β} {xs : List α} {ys : List β} :
    xs.mapM f = some ys ↔ List.Forall₂ (fun x y => f x = some y) xs ys := by
  induction xs generalizing ys with
  | nil => simp [eq_comm]
  | cons x xs ih =>
    simp only [List.mapM_cons, Option.bind_eq_bind, Option.bind_eq_some_iff, Option.pure_def,
      Option.some.injEq, ih, List.forall₂_cons_left_iff]
    exact ⟨fun ⟨y, first, rest, others, same⟩ => ⟨y, rest, first, others, same.symm⟩,
      fun ⟨y, rest, first, others, same⟩ => ⟨y, first, rest, others, same.symm⟩⟩

/-- A relation between two lists is replaced by one that is weaker on the members of the first. -/
theorem forall₂_imp_of_mem {α β : Type} {R S : α → β → Prop} {xs : List α} {ys : List β}
    (related : List.Forall₂ R xs ys) (weaker : ∀ x ∈ xs, ∀ y, R x y → S x y) :
    List.Forall₂ S xs ys := by
  rw [List.forall₂_iff_zip] at related ⊢
  exact ⟨related.1, fun member => weaker _ (List.of_mem_zip member).1 _ (related.2 member)⟩

/-! ### Parameters -/

/-- There is a value for each parameter that the method does not just set. -/
def Parameter.Admits (p : Parameter) (arg : Option (Value F)) : Prop :=
  p.passing = .out ↔ arg = none

/-- What a parameter starts with. -/
def Slot.ofArgument : Option (Value F) → Slot F
  | none => .unassigned
  | some value => .holds value

@[simp] theorem Slot.value?_ofArgument {arg : Option (Value F)} :
    (Slot.ofArgument arg).value? = arg := by
  cases arg <;> rfl

theorem Slot.ofArgument_ne_absent {arg : Option (Value F)} : Slot.ofArgument arg ≠ .absent := by
  cases arg <;> simp [Slot.ofArgument]

namespace State

/-- The state in which a method starts. -/
def start : List Parameter → List (Option (Value F)) → State F
  | p :: params, arg :: args =>
    { locals := Function.update (start params args).locals p.name (.ofArgument arg)
      fixed :=
        if p.passing = .byValue then p.name :: (start params args).fixed
        else (start params args).fixed
      calls := [] }
  | _, _ => { locals := fun _ => .absent, fixed := [], calls := [] }

variable {params : List Parameter} {args : List (Option (Value F))} {σ : State F}

@[simp] theorem locals_start_cons {p : Parameter} {arg : Option (Value F)} :
    (start (p :: params) (arg :: args)).locals =
      Function.update (start params args).locals p.name (.ofArgument arg) := rfl

@[simp] theorem calls_start : (start params args).calls = [] := by
  cases params with
  | nil => rfl
  | cons p params => cases args <;> rfl

/-- A method starts with its parameters only. -/
theorem locals_start_of_notMem (notParam : name ∉ params.map (·.name)) :
    (start params args).locals name = .absent := by
  induction params generalizing args with
  | nil => rfl
  | cons p params ih =>
    rw [List.map_cons, List.mem_cons, not_or] at notParam
    cases args with
    | nil => rfl
    | cons arg args => rw [locals_start_cons, Function.update_of_ne notParam.1, ih notParam.2]

/-- Only parameters passed by value are fixed. -/
theorem exists_of_mem_fixed_start (fixed : name ∈ (start params args).fixed) :
    ∃ p ∈ params, p.passing = .byValue ∧ p.name = name := by
  induction params generalizing args with
  | nil => simp [start] at fixed
  | cons p params ih =>
    cases args with
    | nil => simp [start] at fixed
    | cons arg args =>
      have later : name ∈ (start params args).fixed →
          ∃ q ∈ p :: params, q.passing = .byValue ∧ q.name = name := by
        intro fixed
        obtain ⟨q, isParam, byValue⟩ := ih fixed
        exact ⟨q, List.mem_cons_of_mem _ isParam, byValue⟩
      simp only [start] at fixed
      split at fixed
      · rcases List.mem_cons.mp fixed with rfl | rest
        · exact ⟨p, List.mem_cons_self, ‹_›, rfl⟩
        · exact later rest
      · exact later fixed

/-- The arguments with which a method starts. -/
theorem entering_iff (distinct : (params.map (·.name)).Nodup) :
    entering params args = some σ ↔
      List.Forall₂ Parameter.Admits params args ∧ σ = start params args := by
  induction params generalizing args σ with
  | nil =>
    cases args with
    | nil => simp [entering, start, eq_comm]
    | cons arg args => simp [entering]
  | cons p params ih =>
    rw [List.map_cons, List.nodup_cons] at distinct
    cases args with
    | nil => simp [entering]
    | cons arg args =>
      have absent := @locals_start_of_notMem F p.name params args distinct.1
      simp only [entering, Option.bind_eq_bind, Option.bind_eq_some_iff, ih distinct.2,
        List.forall₂_cons, Parameter.Admits]
      constructor
      · rintro ⟨_, ⟨admitted, rfl⟩, declared⟩
        cases isPassed : p.passing <;> cases arg <;>
          simp_all [declare?_eq_some_iff, start, State.set, Slot.ofArgument]
      · rintro ⟨⟨admits, admitted⟩, rfl⟩
        refine ⟨_, ⟨admitted, rfl⟩, ?_⟩
        cases isPassed : p.passing <;> cases arg <;>
          simp_all [declare?_eq_some_iff, start, State.set, Slot.ofArgument]

/-- Each parameter starts with its argument. -/
theorem forall₂_start (distinct : (params.map (·.name)).Nodup)
    (sameLength : params.length = args.length) :
    List.Forall₂ (fun p arg => (start params args).locals p.name = .ofArgument arg) params args := by
  induction params generalizing args with
  | nil =>
    obtain rfl := List.length_eq_zero_iff.mp sameLength.symm
    exact .nil
  | cons p params ih =>
    cases args with
    | nil => simp at sameLength
    | cons arg args =>
      rw [List.map_cons, List.nodup_cons] at distinct
      refine .cons (by rw [locals_start_cons, Function.update_self]) ?_
      refine forall₂_imp_of_mem (ih distinct.2 (by simpa using sameLength))
        fun q isParam other found => ?_
      have apart : q.name ≠ p.name := fun same =>
        distinct.1 (same ▸ List.mem_map_of_mem isParam)
      rw [locals_start_cons, Function.update_of_ne apart, found]

/-- The values in the parameters at the start are the arguments. -/
theorem forall₂_start_iff {values finals : List (Value F)}
    (distinct : (params.map (·.name)).Nodup) (sameLength : params.length = values.length) :
    List.Forall₂ (fun p final => ((start params (values.map some)).locals p.name).value? =
        some final) params finals ↔
      finals = values := by
  have found : List.Forall₂ (fun p arg => (start params (values.map some)).locals p.name =
      .ofArgument arg) params (values.map some) :=
    forall₂_start distinct (by simpa using sameLength)
  rw [List.forall₂_map_right_iff] at found
  have taken : List.Forall₂ (fun p value =>
      ((start params (values.map some)).locals p.name).value? = some value) params values :=
    found.imp fun p value found => by rw [found]; rfl
  rw [← mapM_eq_some_iff] at taken ⊢
  rw [taken, Option.some.injEq, eq_comm]

end State

/-! ### Calls -/

namespace Machine

variable {outcome : Outcome F} {routine : Member} {given : Given F}

/-- A method runs from the state in which it starts, and leaves its parameters as its body does. -/
theorem run?_iff {modifiers : String} {signature : Signature} {body : Block}
    {args : List (Option (Value F))} (distinct : (signature.params.map (·.name)).Nodup) :
    M.run? (.method modifiers signature body) args = some outcome ↔
      List.Forall₂ Parameter.Admits signature.params args ∧
        ∃ ending τ, exec M (.start signature.params args) body = some (ending, τ) ∧
          ending.result? signature.returns = some outcome.result ∧
          List.Forall₂ (fun p final => (τ.locals p.name).value? = some final) signature.params
              outcome.finals ∧
            outcome.calls = τ.calls := by
  rw [run?]
  simp only [Option.bind_eq_bind, Option.bind_eq_some_iff, Prod.exists, Option.some.injEq,
    State.entering_iff distinct, mapM_eq_some_iff]
  constructor
  · rintro ⟨_, ⟨admitted, rfl⟩, ending, τ, ran, result, ended, finals, left, rfl⟩
    exact ⟨admitted, ending, τ, ran, ended, left, rfl⟩
  · rintro ⟨admitted, ending, τ, ran, ended, left, called⟩
    exact ⟨_, ⟨admitted, rfl⟩, ending, τ, ran, _, ended, _, left, by rw [← called]⟩

/-- The result of a method has the type that the method declares. -/
theorem type_of_run? {modifiers : String} {signature : Signature} {body : Block}
    {args : List (Option (Value F))} (notVoid : signature.returns ≠ "void")
    (ran : M.run? (.method modifiers signature body) args = some outcome) :
    outcome.result.type = signature.returns := by
  rw [run?] at ran
  simp only [Option.bind_eq_bind, Option.bind_eq_some_iff, Prod.exists, Option.some.injEq] at ran
  obtain ⟨_, -, ending, _, -, result, ended, _, -, rfl⟩ := ran
  cases ending with
  | next => simp [Ending.result?, notVoid] at ended
  | left value =>
    cases value with
    | none => simp [Ending.result?, notVoid] at ended
    | some value =>
      rw [Ending.result?, if_neg notVoid] at ended
      exact Value.type_of_returnedAs ended

/-- A method that leaves its parameters as they are and makes no native calls. -/
theorem run?_iff_of_keeps {modifiers : String} {signature : Signature} {body : Block}
    {values : List (Value F)} (distinct : (signature.params.map (·.name)).Nodup)
    (byValue : List.Forall₂ (fun p _ => p.passing = .byValue) signature.params values)
    (keeps : ∀ ending τ, exec M (.start signature.params (values.map some)) body =
      some (ending, τ) → τ.calls = [] ∧ ∀ p ∈ signature.params, τ.locals p.name =
        (State.start signature.params (values.map some)).locals p.name) :
    M.run? (.method modifiers signature body) (values.map some) = some outcome ↔
      ∃ ending τ result, exec M (.start signature.params (values.map some)) body =
          some (ending, τ) ∧
        ending.result? signature.returns = some result ∧ outcome = ⟨[], values, result⟩ := by
  have admitted : List.Forall₂ Parameter.Admits signature.params (values.map some) := by
    rw [List.forall₂_map_right_iff]
    exact byValue.imp fun p value isByValue => by simp [Parameter.Admits, isByValue]
  have kept : ∀ {τ : State F} {finals}, (∀ p ∈ signature.params, τ.locals p.name =
      (State.start signature.params (values.map some)).locals p.name) →
        (List.Forall₂ (fun p final => (τ.locals p.name).value? = some final) signature.params
          finals ↔ finals = values) := by
    intro τ finals same
    rw [← State.forall₂_start_iff distinct byValue.length_eq]
    constructor
    · intro left
      refine forall₂_imp_of_mem left fun p isParam final found => ?_
      rwa [same p isParam] at found
    · intro left
      refine forall₂_imp_of_mem left fun p isParam final found => ?_
      rwa [same p isParam]
  rw [run?_iff distinct]
  constructor
  · rintro ⟨-, ending, τ, ran, ended, left, called⟩
    obtain ⟨noCalls, same⟩ := keeps ending τ ran
    refine ⟨ending, τ, outcome.result, ran, ended, ?_⟩
    rcases outcome with ⟨calls, finals, result⟩
    simp only [Outcome.mk.injEq, and_true]
    exact ⟨called.trans noCalls, (kept same).mp left⟩
  · rintro ⟨ending, τ, result, ran, ended, rfl⟩
    obtain ⟨noCalls, same⟩ := keeps ending τ ran
    exact ⟨admitted, ending, τ, ran, ended, (kept same).mpr rfl, noCalls.symm⟩

/-- A method that changes nothing at all. -/
theorem run?_iff_of_still {modifiers : String} {signature : Signature} {body : Block}
    {values : List (Value F)} {ends : Ending F → Prop}
    (distinct : (signature.params.map (·.name)).Nodup)
    (byValue : List.Forall₂ (fun p _ => p.passing = .byValue) signature.params values)
    (executed : ∀ ending τ, exec M (.start signature.params (values.map some)) body =
      some (ending, τ) ↔ ends ending ∧ τ = .start signature.params (values.map some)) :
    M.run? (.method modifiers signature body) (values.map some) = some outcome ↔
      ∃ ending result, ends ending ∧ ending.result? signature.returns = some result ∧
        outcome = ⟨[], values, result⟩ := by
  rw [run?_iff_of_keeps distinct byValue]
  · simp only [executed]
    constructor
    · rintro ⟨ending, _, result, ⟨ended, rfl⟩, returned, rfl⟩
      exact ⟨ending, result, ended, returned, rfl⟩
    · rintro ⟨ending, result, ended, returned, rfl⟩
      exact ⟨ending, _, result, ⟨ended, rfl⟩, returned, rfl⟩
  · intro ending τ ran
    obtain ⟨-, rfl⟩ := (executed ending τ).mp ran
    exact ⟨State.calls_start, fun _ _ => rfl⟩

theorem invoke?_iff {finals : List (Value F)} :
    M.invoke? name given = some (finals, value) ↔
      ∃ routine, M.routine? name given = some routine ∧
        M.run? routine (given.map Prod.snd) = some ⟨[], finals, value⟩ := by
  rw [invoke?]
  simp only [Option.bind_eq_bind, Option.bind_eq_some_iff, Option.ite_none_right_eq_some,
    Option.some.injEq, Prod.mk.injEq, List.isEmpty_iff]
  constructor
  · rintro ⟨routine, found, ⟨calls, _, _⟩, ran, rfl, rfl, rfl⟩
    exact ⟨routine, found, ran⟩
  · rintro ⟨routine, found, ran⟩
    exact ⟨routine, found, _, ran, rfl, rfl, rfl⟩

/-- A parameter is passed as the argument is, and has the type of its value. -/
def Takes (p : Parameter) (arg : Passing × Option (Value F)) : Prop :=
  ∃ value, arg = (p.passing, some value) ∧ value.type = p.type

theorem takes_iff {params : List Parameter} :
    List.Forall₂ Takes params given ↔
      given.mapM (fun arg => do some (arg.1, (← arg.2).type)) =
        some (params.map fun p => (p.passing, p.type)) := by
  induction given generalizing params with
  | nil => cases params <;> simp
  | cons arg rest ih =>
    rw [List.mapM_cons]
    simp only [Option.bind_eq_bind, Option.bind_eq_some_iff, Option.pure_def, Option.some.injEq]
    constructor
    · intro taken
      cases taken with
      | cons first others =>
        obtain ⟨value, rfl, sameType⟩ := first
        exact ⟨_, ⟨value, rfl, rfl⟩, _, ih.mp others, by rw [sameType, List.map_cons]⟩
    · rintro ⟨_, ⟨value, isGiven, rfl⟩, types, others, same⟩
      cases params with
      | nil => simp at same
      | cons p params =>
        obtain ⟨⟨samePassing, sameType⟩, rfl⟩ : (arg.1 = p.passing ∧ value.type = p.type) ∧
            types = params.map fun p => (p.passing, p.type) := by simpa using same
        refine .cons ⟨value, ?_, sameType⟩ (ih.mpr others)
        rw [← samePassing, ← isGiven]

/-- A call finds a method of its name that takes the arguments. -/
theorem takes_of_routine? (found : M.routine? name given = some routine) :
    routine ∈ M.routines ∧ ∃ modifiers signature body,
      routine = .method modifiers signature body ∧ signature.name = name ∧
        List.Forall₂ Takes signature.params given := by
  rw [routine?, Option.bind_eq_bind, Option.bind_eq_some_iff] at found
  obtain ⟨types, typed, found⟩ := found
  refine ⟨List.mem_of_find?_eq_some found, ?_⟩
  have matching := List.find?_some found
  cases routine with
  | method modifiers signature body =>
    simp only [Bool.and_eq_true, beq_iff_eq] at matching
    refine ⟨modifiers, signature, body, rfl, matching.1, takes_iff.mpr ?_⟩
    rw [matching.2]
    exact typed
  | _ => simp at matching

/-- A call finds the only method of its name that takes the arguments. -/
theorem routine?_of_unique {modifiers : String} {signature : Signature} {body : Block}
    (member : .method modifiers signature body ∈ M.routines) (named : signature.name = name)
    (takes : List.Forall₂ Takes signature.params given)
    (unique : ∀ modifiers' signature' body', .method modifiers' signature' body' ∈ M.routines →
      signature'.name = name → List.Forall₂ Takes signature'.params given →
        Member.method modifiers' signature' body' = .method modifiers signature body) :
    M.routine? name given = some (.method modifiers signature body) := by
  have typed := takes_iff.mp takes
  obtain ⟨routine, found⟩ : ∃ routine, M.routine? name given = some routine := by
    rw [routine?, Option.bind_eq_bind, typed, Option.bind_some, ← Option.isSome_iff_exists,
      List.find?_isSome]
    exact ⟨_, member, by simp [named]⟩
  obtain ⟨isRoutine, _, _, _, rfl, sameName, alsoTakes⟩ := takes_of_routine? found
  rw [found, unique _ _ _ isRoutine sameName alsoTakes]

end Machine

end InteropGlue.CSharp
