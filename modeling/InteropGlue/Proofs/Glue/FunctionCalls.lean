import InteropGlue.Proofs.CSharp.Sequences
import InteropGlue.Proofs.Glue.ConversionRuns
import InteropGlue.Proofs.Glue.FunctionTyping
/-!
# Calls of entry points

The body of a function declares temporaries and calls its entry point. Both phases treat the
parameters one after the other and set one variable for each of them: its temporary, and then the
variable that stands for it in the call. The treatment of one parameter does not matter to the
others, since their variables are distinct.

## Main Definitions

* `Function.DistinctNames` — the variables of a body do not share names.
* `Library.temporaryParams` — the parameters with a temporary.
* `Library.Prepares` — what a temporary starts with.
* `Library.Provides` — what the entry point is given for a parameter.
* `Library.settledSlot` — what the callee leaves for a parameter.

## Main Results

* `Library.exec_temporaries_iff` — the declaration of the temporaries.
* `Library.exec_entryCall_iff` — the call, with one argument for each parameter.
-/

namespace InteropGlue

open CSharp

/-! ### Names of variables -/

/-- The variables of a body do not share names. -/
structure Function.DistinctNames (f : Function) : Prop where
  params : (f.params.map (·.name)).Nodup
  notResult : ∀ p ∈ f.params, p.name ≠ resultName
  notTemporary : ∀ p ∈ f.params, ∀ q ∈ f.params, p.name ≠ q.temporary

theorem Param.temporary_injective {p q : Param} (same : p.temporary = q.temporary) :
    p.name = q.name := by
  simpa [temporary] using same

/-- A name that ends with another letter is not that of a temporary. -/
theorem Param.temporary_ne (p : Param) {name : String} (last : name.toList.getLast? ≠ some 'p') :
    p.temporary ≠ name := by
  rintro rfl
  simp [temporary] at last

theorem Param.temporary_ne_result (p : Param) : p.temporary ≠ resultName := p.temporary_ne (by decide)

theorem Param.temporary_ne_machine (p : Param) : p.temporary ≠ machineParam :=
  p.temporary_ne (by decide)

namespace Library

variable {F : Framework} {lib : Library} {M : Machine F} {σ τ : State F} {target : Target}
  {f : Function} {p : Param} {value : Value F} {rest : List Step} {run : Ending F × State F}

instance (type : TypeRef) : Decidable (lib.Crossing type) :=
  inferInstanceAs (Decidable (_ ∨ _ ∨ _))

theorem names_parameters {mode : Mode} :
    (lib.parameters mode f).map (·.name) = f.params.map (·.name) := by
  rw [parameters, List.map_map]
  rfl

/-! ### Parameters with a temporary -/

/-- The parameters with a temporary, in the order of their treatment. -/
def temporaryParams (lib : Library) (f : Function) : List Param :=
  (lib.buckets f).outHandles ++ (lib.buckets f).structs ++ (lib.buckets f).classes

/-- A handle or record that the callee writes goes through a temporary. -/
def HasTemporary (lib : Library) (p : Param) : Prop := lib.Crossing p.type ∧ p.isWritten = true

instance : Decidable (lib.HasTemporary p) := inferInstanceAs (Decidable (_ ∧ _))

theorem mem_temporaryParams : p ∈ lib.temporaryParams f ↔ p ∈ f.params ∧ lib.HasTemporary p := by
  simp only [temporaryParams, buckets, paramsOfKind, List.mem_append, List.mem_filter,
    Bool.and_eq_true, beq_iff_eq, HasTemporary, Crossing]
  tauto

theorem notMem_temporaryParams_names {name : String}
    (apart : ∀ p ∈ f.params, lib.HasTemporary p → p.name ≠ name) :
    name ∉ (lib.temporaryParams f).map Param.name := by
  intro isWritten
  obtain ⟨p, isMember, same⟩ := List.mem_map.mp isWritten
  obtain ⟨isParam, hasTemporary⟩ := mem_temporaryParams.mp isMember
  exact apart p isParam hasTemporary same

theorem nodup_temporaryParams (params : f.params.Nodup) : (lib.temporaryParams f).Nodup := by
  have apart : ∀ {kind other : Kind}, kind ≠ other →
      ∀ p ∈ lib.paramsOfKind f kind true, ∀ q ∈ lib.paramsOfKind f other true, p ≠ q := by
    rintro kind other different p isFirst _ isSecond rfl
    simp only [paramsOfKind, List.mem_filter, Bool.and_eq_true, beq_iff_eq] at isFirst isSecond
    exact different (isFirst.2.1.symm.trans isSecond.2.1)
  simp only [temporaryParams, buckets, List.nodup_append, List.mem_append]
  refine ⟨⟨params.filter _, params.filter _, apart (by decide)⟩, params.filter _, ?_⟩
  rintro p (isHandle | isStruct) q isClass
  · exact apart (by decide) p isHandle q isClass
  · exact apart (by decide) p isStruct q isClass

/-- The names of some of the parameters are distinct. -/
theorem nodup_names (names : f.DistinctNames) {params : List Param} (distinct : params.Nodup)
    (subset : ∀ p ∈ params, p ∈ f.params) : (params.map (·.name)).Nodup :=
  distinct.map_on fun p isParam q alsoParam same =>
    List.inj_on_of_nodup_map names.params (subset p isParam) (subset q alsoParam) same

/-- The temporary of a parameter by its kind. -/
def temporaryStep (lib : Library) (target : Target) (p : Param) : Step :=
  match lib.kindOf p.type with
  | .handle => lib.handleTemporary target p
  | .structType => lib.structTemporary target p
  | _ => lib.classTemporary target p

theorem temporaries_eq : lib.temporaries target f =
    (lib.temporaryParams f).flatMap fun p => [lib.temporaryStep target p] := by
  have steps : ∀ {kind : Kind} {step : Param → Step},
      (∀ p, lib.kindOf p.type = kind → lib.temporaryStep target p = step p) →
        (lib.paramsOfKind f kind true).map step =
          (lib.paramsOfKind f kind true).flatMap fun p => [lib.temporaryStep target p] := by
    intro kind step same
    rw [List.map_eq_flatMap]
    refine List.flatMap_congr fun p member => ?_
    rw [same p (mem_paramsOfKind.mp member).2.1]
  rw [temporaries, temporaryParams, List.flatMap_append, List.flatMap_append]
  simp only [buckets]
  rw [steps fun p kind => by rw [temporaryStep, kind], steps fun p kind => by rw [temporaryStep, kind],
    steps fun p kind => by rw [temporaryStep, kind]]

/-- What is written back into a parameter by its kind. -/
def writeBackSteps (lib : Library) (target : Target) (p : Param) : List Step :=
  if lib.kindOf p.type = .classType then lib.classWriteBack target p else [valueWriteBack p]

theorem writeBacks_eq : lib.writeBacks target f =
    (lib.temporaryParams f).flatMap (lib.writeBackSteps target) := by
  have values : ∀ {kind : Kind}, kind ≠ .classType →
      (lib.paramsOfKind f kind true).map valueWriteBack =
        (lib.paramsOfKind f kind true).flatMap (lib.writeBackSteps target) := by
    intro kind notClass
    rw [List.map_eq_flatMap]
    refine List.flatMap_congr fun p member => ?_
    rw [writeBackSteps, (mem_paramsOfKind.mp member).2.1, if_neg notClass]
  have classes : (lib.paramsOfKind f .classType true).flatMap (lib.classWriteBack target) =
      (lib.paramsOfKind f .classType true).flatMap (lib.writeBackSteps target) := by
    refine List.flatMap_congr fun p member => ?_
    rw [writeBackSteps, if_pos (mem_paramsOfKind.mp member).2.1]
  rw [writeBacks, temporaryParams, List.flatMap_append, List.flatMap_append, List.map_append]
  simp only [buckets]
  rw [values (by decide), values (by decide), classes]

/-! ### Conversions of variables -/

section Conversions

variable (routines : M.routines = lib.routines target)
include routines

/-- A conversion of a variable gives the converted value of what it holds. -/
theorem eval_convertName_iff {routine name : String} :
    eval M σ (.callOwn routine [machineExpr, .name name]) = some (value, τ) ↔
      (∃ key source, σ.read machineExpr = some key ∧ σ.read (.name name) = some source ∧
        M.Converts routine key source value) ∧ τ = σ := by
  have places : ∀ e ∈ [machineExpr, .name name], e.isPlace = true := by simp [machineExpr]
  have part : PlaceOf name (fun _ => False) (.name name) := .name
  have converted : ∀ {key source}, σ.read machineExpr = some key →
      σ.read (.name name) = some source → (_ ↔ _) := fun {key source} keyRead read =>
    @eval_convert F M σ τ key source value routine name (fun _ => False) (.name name)
      (State.read_name_eq_some_iff.mp keyRead) part read (quiet routines)
  constructor
  · intro evaluated
    obtain ⟨key, keyRead⟩ := exists_read_of_call places List.mem_cons_self evaluated
    obtain ⟨source, read⟩ :=
      exists_read_of_call places (List.mem_cons_of_mem _ (List.mem_singleton_self _)) evaluated
    obtain ⟨converts, same⟩ := (converted keyRead read).mp evaluated
    exact ⟨⟨key, source, keyRead, read, converts⟩, same⟩
  · rintro ⟨⟨key, source, keyRead, read, converts⟩, same⟩
    exact (converted keyRead read).mpr ⟨converts, same⟩

/-- The conversion of a boolean variable. -/
theorem eval_convertBoolName_iff (conversion : Conversion) {name : String} :
    eval M σ (.callOwn conversion.boolRoutine [.name name]) = some (value, τ) ↔
      (∃ source, σ.read (.name name) = some source ∧
        M.invoke? conversion.boolRoutine [(.byValue, some source)] = some ([source], value)) ∧
          τ = σ := by
  have part : PlaceOf name (fun _ => False) (.name name) := .name
  have converted : ∀ {source}, σ.read (.name name) = some source → (_ ↔ _) :=
    fun {source} read =>
      @eval_convertBool F M σ τ source value conversion.boolRoutine name (fun _ => False)
        (.name name) part read (quietBooleans routines conversion source)
  constructor
  · intro evaluated
    obtain ⟨source, read⟩ := exists_read_of_call (by simp) (List.mem_singleton_self _) evaluated
    obtain ⟨converts, same⟩ := (converted read).mp evaluated
    exact ⟨⟨source, read, converts⟩, same⟩
  · rintro ⟨⟨source, read, converts⟩, same⟩
    exact (converted read).mpr ⟨converts, same⟩

end Conversions

/-! ### Temporaries -/

/-- A temporary starts with the converted value, with an instance, or with nothing. -/
theorem temporaryStep_eq (convertible : lib.Convertible p) (hasTemporary : lib.HasTemporary p) :
    lib.temporaryStep target p =
      if p.isRef then .bind p.temporary (unwrapCall (.name p.name))
      else if lib.kindOf p.type = .classType then
        .bind p.temporary (.create (lib.nativeType target p) [])
      else .declare (lib.nativeType target p) p.temporary := by
  obtain ⟨kind | kind | kind, isWritten⟩ := hasTemporary
  · simp [temporaryStep, kind, handleTemporary]
  · have notBuffer := convertible.2.1 (.inr kind)
    cases direction : p.direction with
    | input => simp [Param.isWritten, direction] at isWritten
    | buffer => exact absurd direction notBuffer
    | output => simp [temporaryStep, kind, structTemporary, Param.isRef, direction]
    | byRef => simp [temporaryStep, kind, structTemporary, Param.isRef, direction]
  · simp [temporaryStep, kind, classTemporary]

/-- What the temporary of a parameter starts with, by the key and the value of the parameter: the
converted value for a parameter by reference, an instance for a class, and nothing for any other. -/
def Prepares (lib : Library) (M : Machine F) (target : Target) (key : Option (Value F)) (p : Param)
    (given : Option (Value F)) (slot : Slot F) : Prop :=
  if p.isRef then
    ∃ native, (∃ keyValue value, key = some keyValue ∧ given = some value ∧
      M.Converts "Unwrap" keyValue value native) ∧ slot = .holds native
  else if lib.kindOf p.type = .classType then
    ∃ start, M.construct? (lib.nativeType target p) = some start ∧ slot = .holds start
  else slot = .unassigned

/-- The temporary of one parameter is declared. -/
theorem exec_temporaryStep_iff (routines : M.routines = lib.routines target)
    (convertible : lib.Convertible p) (hasTemporary : lib.HasTemporary p)
    (absent : σ.locals p.temporary = .absent) :
    exec M σ (.ofSteps ([lib.temporaryStep target p] ++ rest)) = some run ↔
      ∃ slot, lib.Prepares M target (σ.read machineExpr) p (σ.read (.name p.name)) slot ∧
        exec M (σ.set p.temporary slot) (.ofSteps rest) = some run := by
  rw [List.singleton_append, Block.ofSteps, List.foldr_cons,
    temporaryStep_eq convertible hasTemporary]
  simp only [Prepares]
  split_ifs with isRef isClass
  · rw [exec_bind_iff]
    simp only [unwrapCall, eval_convertName_iff routines]
    constructor
    · rintro ⟨native, _, ⟨converts, rfl⟩, -, ran⟩
      exact ⟨_, ⟨native, converts, rfl⟩, ran⟩
    · rintro ⟨_, ⟨native, converts, rfl⟩, ran⟩
      exact ⟨native, σ, ⟨converts, rfl⟩, absent, ran⟩
  · rw [exec_bind_iff]
    simp only [eval_create_iff]
    constructor
    · rintro ⟨start, _, ⟨constructed, rfl⟩, -, ran⟩
      exact ⟨_, ⟨start, constructed, rfl⟩, ran⟩
    · rintro ⟨_, ⟨start, constructed, rfl⟩, ran⟩
      exact ⟨start, σ, ⟨constructed, rfl⟩, absent, ran⟩
  · rw [exec_declare_iff, exists_eq_left]
    exact and_iff_right absent

/-- The temporaries are declared one after the other. -/
theorem exec_temporaries_iff (routines : M.routines = lib.routines target) (names : f.DistinctNames)
    (convertible : ∀ p ∈ f.params, lib.Convertible p)
    (absent : ∀ p ∈ f.params, σ.locals p.temporary = .absent) :
    exec M σ (.ofSteps (lib.temporaries target f ++ rest)) = some run ↔
      ∃ slot : Param → Slot F,
        (∀ p ∈ lib.temporaryParams f, lib.Prepares M target (σ.read machineExpr) p
          (σ.read (.name p.name)) (slot p)) ∧
          exec M (σ.setEach (lib.temporaryParams f) Param.temporary slot) (.ofSteps rest) =
            some run := by
  rw [temporaries_eq]
  refine exec_each_iff (fun σ' p => σ'.locals p.temporary = .absent ∧
      σ'.read machineExpr = σ.read machineExpr ∧ σ'.read (.name p.name) = σ.read (.name p.name))
    (nodup_temporaryParams names.params.of_map) ?_ ?_ ?_
  · rintro p member σ' ⟨isAbsent, sameKey, sameValue⟩ rest
    obtain ⟨isParam, hasTemporary⟩ := mem_temporaryParams.mp member
    rw [exec_temporaryStep_iff routines (convertible p isParam) hasTemporary isAbsent, sameKey,
      sameValue]
  · rintro p member q alsoMember different σ' slot ⟨isAbsent, sameKey, sameValue⟩
    obtain ⟨isParam, -⟩ := mem_temporaryParams.mp member
    obtain ⟨alsoParam, -⟩ := mem_temporaryParams.mp alsoMember
    have apart : q.temporary ≠ p.temporary := fun same => different
      (List.inj_on_of_nodup_map names.params alsoParam isParam (Param.temporary_injective same))
    refine ⟨?_, ?_, ?_⟩
    · rw [State.locals_set_of_ne apart, isAbsent]
    · rw [← sameKey, machineExpr, State.read_name, State.read_name,
        State.locals_set_of_ne p.temporary_ne_machine.symm]
    · rw [← sameValue, State.read_name, State.read_name,
        State.locals_set_of_ne (names.notTemporary q alsoParam p isParam)]
  · intro p member
    exact ⟨absent p (mem_temporaryParams.mp member).1, rfl, rfl⟩

/-! ### Arguments of the call -/

/-- The variable that stands for a parameter in the call. -/
def stand (lib : Library) (p : Param) : String :=
  if lib.HasTemporary p then p.temporary else p.name

/-- The variable of a parameter is an argument itself: nothing is converted on the way in. -/
def IsDirect (lib : Library) (p : Param) : Prop :=
  lib.HasTemporary p ∨ ¬ lib.Crossing p.type ∧ lib.kindOf p.type ≠ .bool

instance : Decidable (lib.IsDirect p) := inferInstanceAs (Decidable (_ ∨ _ ∧ _))

theorem callArgument_of_direct (direct : lib.IsDirect p) :
    lib.callArgument p = .pass p.direction.passing (.name (lib.stand p)) := by
  rcases direct with ⟨crossing, isWritten⟩ | ⟨notCrossing, notBool⟩
  · rw [stand, if_pos ⟨crossing, isWritten⟩]
    rcases crossing with kind | kind | kind <;> simp [callArgument, kind, isWritten]
  · rw [stand, if_neg fun hasTemporary => notCrossing hasTemporary.1, callArgument]
    rw [Crossing] at notCrossing
    split <;> simp_all

theorem isInput_of_not_direct (convertible : lib.Convertible p) (notDirect : ¬ lib.IsDirect p) :
    p.direction = .input := by
  by_cases crossing : lib.Crossing p.type
  · exact isWritten_eq_false_iff.mp
      (Bool.not_eq_true _ ▸ fun isWritten => notDirect (.inl ⟨crossing, isWritten⟩))
  · by_cases isBool : lib.kindOf p.type = .bool
    · exact convertible.1 (kindOf_eq_bool_iff.mp isBool)
    · exact absurd (.inr ⟨crossing, isBool⟩) notDirect

theorem callArgument_of_not_direct (convertible : lib.Convertible p)
    (notDirect : ¬ lib.IsDirect p) :
    lib.callArgument p =
      .value (if lib.Crossing p.type then unwrapCall (.name p.name)
        else .callOwn "ToBOOL" [.name p.name]) := by
  have input := isInput_of_not_direct convertible notDirect
  have notWritten : p.isWritten = false := isWritten_eq_false_iff.mpr input
  by_cases crossing : lib.Crossing p.type
  · rw [if_pos crossing]
    rcases crossing with kind | kind | kind <;> simp [callArgument, kind, notWritten]
  · have isBool : lib.kindOf p.type = .bool := by
      by_contra notBool
      exact notDirect (.inr ⟨crossing, notBool⟩)
    rw [if_neg crossing, callArgument, isBool, input]
    rfl

/-- What the entry point is given for a parameter, by the key, the value of the parameter and the
variable that stands for it. -/
def Provides (lib : Library) (M : Machine F) (p : Param) (key given : Option (Value F))
    (slot : Slot F) (incoming : Option (Value F)) : Prop :=
  if lib.IsDirect p then
    if p.isOut then incoming = none else incoming = slot.value? ∧ incoming ≠ none
  else
    ∃ native, incoming = some native ∧
      if lib.Crossing p.type then
        ∃ keyValue value, key = some keyValue ∧ given = some value ∧
          M.Converts "Unwrap" keyValue value native
      else
        ∃ value, given = some value ∧
          M.invoke? "ToBOOL" [(.byValue, some value)] = some ([value], native)

/-- The argument for a parameter gives what the entry point is given for it. -/
theorem gives_callArgument_iff (routines : M.routines = lib.routines target)
    (convertible : lib.Convertible p) {given : Passing × Option (Value F)} :
    Arg.Gives M σ (lib.callArgument p) given ↔
      given.1 = p.direction.passing ∧
        lib.Provides M p (σ.read machineExpr) (σ.read (.name p.name)) (σ.locals (lib.stand p))
          given.2 := by
  obtain ⟨passing, incoming⟩ := given
  by_cases direct : lib.IsDirect p
  · have isRead : ∀ keyword : Passing, (∃ value, σ.read (.name (lib.stand p)) = some value ∧
        passing = keyword ∧ incoming = some value) ↔
          passing = keyword ∧ incoming = (σ.locals (lib.stand p)).value? ∧ incoming ≠ none := by
      intro keyword
      rw [State.read_name]
      constructor
      · rintro ⟨value, read, rfl, rfl⟩
        exact ⟨rfl, read.symm, by simp⟩
      · rintro ⟨rfl, rfl, notNone⟩
        obtain ⟨value, read⟩ := Option.ne_none_iff_exists'.mp notNone
        exact ⟨value, read, rfl, read⟩
    rw [callArgument_of_direct direct, Provides, if_pos direct]
    cases direction : p.direction with
    | output => simp [Direction.passing, Arg.Gives, Param.isOut, direction]
    | byRef => simp [Direction.passing, Arg.Gives, Param.isOut, direction, ← isRead]
    | input | buffer =>
      simp [Direction.passing, Arg.Gives, Param.isOut, direction, ← isRead,
        eval_place_iff (isPlace_name _)]
  · have input := isInput_of_not_direct convertible direct
    have toNative := @eval_convertBoolName_iff F lib M σ σ target
    rw [callArgument_of_not_direct convertible direct, Provides, if_neg direct, input]
    simp only [Arg.value, Arg.Gives, Direction.passing, Prod.mk.injEq]
    split
    · simp only [unwrapCall, eval_convertName_iff routines, and_true]
      constructor
      · rintro ⟨native, converts, rfl, rfl⟩
        exact ⟨rfl, native, rfl, converts⟩
      · rintro ⟨rfl, native, rfl, converts⟩
        exact ⟨native, converts, rfl, rfl⟩
    · have converted : ∀ {native : Value F}, eval M σ (.callOwn "ToBOOL" [.name p.name]) =
          some (native, σ) ↔ _ := fun {native} => toNative routines .unwrap
      simp only [converted, and_true]
      constructor
      · rintro ⟨native, converts, rfl, rfl⟩
        exact ⟨rfl, native, rfl, converts⟩
      · rintro ⟨rfl, native, rfl, converts⟩
        exact ⟨native, converts, rfl, rfl⟩

/-- Evaluating an argument changes nothing. -/
theorem callArgument_isStill (routines : M.routines = lib.routines target)
    (convertible : lib.Convertible p) : (lib.callArgument p).expr.IsStill M σ := by
  by_cases direct : lib.IsDirect p
  · rw [callArgument_of_direct direct]
    exact .of_place (isPlace_name _)
  · rw [callArgument_of_not_direct convertible direct]
    intro value τ evaluated
    rw [Arg.value, Arg.expr] at evaluated
    split at evaluated
    · exact ((eval_convertName_iff routines).mp evaluated).2
    · exact ((eval_convertBoolName_iff routines .unwrap).mp evaluated).2

/-! ### What the call leaves -/

/-- What the callee leaves in a variable that is an argument. A buffer keeps its instance. -/
def settled (p : Param) (incoming : Option (Value F)) (written : Value F) : Value F :=
  match p.direction, incoming with
  | .input, some value => value
  | .buffer, some value => value.afterCall (value.filledWith written)
  | _, _ => written

/-- What a variable is after the call. -/
def settledSlot (lib : Library) (p : Param) (slot : Slot F) (incoming : Option (Value F))
    (written : Value F) : Slot F :=
  if lib.IsDirect p then .holds (settled p incoming written) else slot

/-- What the callee leaves in one argument is left in one variable. -/
theorem passBack_callArgument (convertible : lib.Convertible p) {key given : Option (Value F)}
    {incoming : Option (Value F)} {reply : Reply F} (present : σ.locals (lib.stand p) ≠ .absent)
    (provides : lib.Provides M p key given (σ.locals (lib.stand p)) incoming) (args : List Arg)
    (finals : List (Value F)) :
    σ.passBack (lib.callArgument p :: args)
        (reply.final (lib.parameter (.native target) p) incoming :: finals) =
      (σ.set (lib.stand p) (lib.settledSlot p (σ.locals (lib.stand p)) incoming
        (reply.written p.name))).passBack args finals := by
  by_cases direct : lib.IsDirect p
  · rw [Provides, if_pos direct] at provides
    rw [callArgument_of_direct direct, settledSlot, if_pos direct]
    cases direction : p.direction with
    | output | byRef =>
      rw [State.passBack_reference (by simp [Direction.passing]) present]
      simp [settled, direction, Reply.final, parameter, Direction.passing]
    | input | buffer =>
      simp only [Param.isOut, direction] at provides
      obtain ⟨same, notNone⟩ : incoming = (σ.locals (lib.stand p)).value? ∧ incoming ≠ none := by
        simpa using provides
      obtain ⟨value, rfl⟩ := Option.ne_none_iff_exists'.mp notNone
      have holds : σ.locals (lib.stand p) = .holds value :=
        State.read_name_eq_some_iff.mp (State.read_name.trans same.symm)
      rw [Direction.passing, State.passBack_byValue holds]
      simp [settled, direction, Reply.final, parameter, Direction.passing, Mode.native]
  · rw [callArgument_of_not_direct convertible direct, settledSlot, if_neg direct,
      State.set_self rfl, Arg.value, State.passBack]
    split <;> simp [Expr.isPlace, unwrapCall, Expr.callOwn]

/-! ### The call -/

/-- The names of all entry points are distinct, so one is found by its name. -/
theorem entryPoint?_of_function (accepted : lib.Accepted) (member : f ∈ lib.functions)
    {names : ClassNames} (entryPoints : M.entryPoints = lib.entryPointDelegates names target) :
    M.entryPoint? f.name = some (lib.delegateOf (.native target) (pointerName f.name) f) := by
  have keys : M.entryPoints.map (·.signature.name) = lib.entryPointNames.map pointerName := by
    simp only [entryPoints, entryPointDelegates, entryPointNames, List.map_append, List.map_map]
    rfl
  have distinct : (M.entryPoints.map (·.signature.name)).Nodup := by
    rw [keys]
    exact accepted.sound.entryPointNames_nodup.map fun _ _ => pointerName_injective
  have listed : lib.delegateOf (.native target) (pointerName f.name) f ∈ M.entryPoints := by
    rw [entryPoints]
    exact List.mem_append_left _ (List.mem_map.mpr ⟨f, member, rfl⟩)
  exact find?_of_nodup_keys distinct listed

/-- No two parameters are stood for by one variable. -/
theorem stand_injective (names : f.DistinctNames) {q : Param} (isParam : p ∈ f.params)
    (alsoParam : q ∈ f.params) (same : lib.stand p = lib.stand q) : p = q := by
  have ofName : p.name = q.name → p = q := fun same =>
    List.inj_on_of_nodup_map names.params isParam alsoParam same
  rw [stand, stand] at same
  split at same
  · split at same
    · exact ofName (Param.temporary_injective same)
    · exact absurd same.symm (names.notTemporary q alsoParam p isParam)
  · split at same
    · exact absurd same (names.notTemporary p isParam q alsoParam)
    · exact ofName same

/-- The variables that stand for the parameters are as the callee leaves them. -/
def settle (lib : Library) (f : Function) (σ : State F) (incoming : Param → Option (Value F))
    (reply : Reply F) : State F :=
  σ.setEach f.params lib.stand fun p =>
    lib.settledSlot p (σ.locals (lib.stand p)) (incoming p) (reply.written p.name)

/-- The state after the call. -/
def afterEntry (lib : Library) (M : Machine F) (f : Function) (σ : State F)
    (incoming : Param → Option (Value F)) : State F :=
  { lib.settle f σ incoming (M.native f.name (f.params.map incoming)) with
    calls := σ.calls ++ [⟨f.name, f.params.map incoming⟩] }

/-- The arguments of the call are one incoming value for each parameter, passed in its direction. -/
theorem evalArgs_entryCall_iff (routines : M.routines = lib.routines target)
    (names : f.DistinctNames) (convertible : ∀ p ∈ f.params, lib.Convertible p)
    {given : List (Passing × Option (Value F))} {middle : State F} :
    evalArgs M σ (f.params.map lib.callArgument) = some (given, middle) ↔
      (∃ incoming : Param → Option (Value F),
        given = f.params.map (fun p => (p.direction.passing, incoming p)) ∧
          ∀ p ∈ f.params, lib.Provides M p (σ.read machineExpr) (σ.read (.name p.name))
            (σ.locals (lib.stand p)) (incoming p)) ∧ middle = σ := by
  have still : ∀ arg ∈ f.params.map lib.callArgument, arg.expr.IsStill M σ := by
    intro arg isArg
    obtain ⟨p, isParam, rfl⟩ := List.mem_map.mp isArg
    exact callArgument_isStill routines (convertible p isParam)
  have gives : ∀ p ∈ f.params, ∀ {arg}, Arg.Gives M σ (lib.callArgument p) arg ↔ _ :=
    fun p isParam => gives_callArgument_iff routines (convertible p isParam)
  have nonempty : Nonempty (Passing × Option (Value F)) := ⟨.byValue, none⟩
  rw [evalArgs_iff still, List.forall₂_map_left_iff,
    forall₂_iff_exists_map (names.params.of_map : f.params.Nodup)]
  refine and_congr_left fun _ => ?_
  constructor
  · rintro ⟨arg, rfl, given⟩
    refine ⟨fun p => (arg p).2, List.map_congr_left fun p isParam => ?_, fun p isParam => ?_⟩
    · rw [← ((gives p isParam).mp (given p isParam)).1]
    · exact ((gives p isParam).mp (given p isParam)).2
  · rintro ⟨incoming, rfl, provides⟩
    exact ⟨_, rfl, fun p isParam => (gives p isParam).mpr ⟨rfl, provides p isParam⟩⟩

/-- What the callee leaves in the parameters comes back to the variables that stand for them. -/
theorem passBack_entryCall (names : f.DistinctNames)
    (convertible : ∀ p ∈ f.params, lib.Convertible p)
    (present : ∀ p ∈ f.params, σ.locals (lib.stand p) ≠ .absent)
    {incoming : Param → Option (Value F)} (reply : Reply F)
    (provides : ∀ p ∈ f.params, lib.Provides M p (σ.read machineExpr) (σ.read (.name p.name))
      (σ.locals (lib.stand p)) (incoming p)) :
    σ.passBack (f.params.map lib.callArgument)
        (List.zipWith reply.final (lib.parameters (.native target) f) (f.params.map incoming)) =
      some (lib.settle f σ incoming reply) := by
  rw [parameters, List.zipWith_map, List.zipWith_self]
  refine State.passBack_each (fun σ' p => σ'.locals (lib.stand p) = σ.locals (lib.stand p))
    names.params.of_map ?_ ?_ fun _ _ => rfl
  · intro p isParam σ' same args finals
    rw [← same]
    exact passBack_callArgument (convertible p isParam) (same ▸ present p isParam)
      (same ▸ provides p isParam) args finals
  · intro p isParam q alsoParam different σ' slot same
    rw [← same]
    refine State.locals_set_of_ne fun sameStand => ?_
    exact different (stand_injective names alsoParam isParam sameStand)

/-- The entry point is called with one argument for each parameter. -/
theorem eval_entryCall_iff (routines : M.routines = lib.routines target) (names : f.DistinctNames)
    (found : M.entryPoint? f.name = some (lib.delegateOf (.native target) (pointerName f.name) f))
    (convertible : ∀ p ∈ f.params, lib.Convertible p)
    (present : ∀ p ∈ f.params, σ.locals (lib.stand p) ≠ .absent) :
    eval M σ (.call (.member (.name "EntryPoints") f.name) (f.params.map lib.callArgument)) =
        some (value, τ) ↔
      ∃ incoming : Param → Option (Value F),
        (∀ p ∈ f.params, lib.Provides M p (σ.read machineExpr) (σ.read (.name p.name))
          (σ.locals (lib.stand p)) (incoming p)) ∧
          value = (if lib.typeName (.native target) f.returnType = "void" then .nothing
            else (M.native f.name (f.params.map incoming)).result) ∧
            τ = lib.afterEntry M f σ incoming := by
  have passings : ∀ incoming : Param → Option (Value F),
      (f.params.map (fun p => (p.direction.passing, incoming p))).map Prod.fst =
        (lib.parameters (.native target) f).map (·.passing) := by
    intro incoming
    simp [parameters, parameter]
  have values : ∀ incoming : Param → Option (Value F),
      (f.params.map (fun p => (p.direction.passing, incoming p))).map Prod.snd =
        f.params.map incoming := by
    intro incoming
    simp
  rw [eval_entry_iff found]
  constructor
  · rintro ⟨given, middle, after, argsEvaluated, -, passed, rfl, rfl⟩
    obtain ⟨⟨incoming, rfl, provides⟩, rfl⟩ :=
      (evalArgs_entryCall_iff routines names convertible).mp argsEvaluated
    rw [values] at passed ⊢
    obtain rfl := Option.some.inj
      ((passBack_entryCall names convertible present _ provides).symm.trans passed)
    refine ⟨incoming, provides, rfl, ?_⟩
    rw [afterEntry, settle, State.setEach_calls]
  · rintro ⟨incoming, provides, rfl, rfl⟩
    refine ⟨_, σ, lib.settle f σ incoming (M.native f.name (f.params.map incoming)),
      (evalArgs_entryCall_iff routines names convertible).mpr ⟨⟨incoming, rfl, provides⟩, rfl⟩,
      passings incoming, ?_, ?_, ?_⟩
    · rw [values]
      exact passBack_entryCall names convertible present _ provides
    · rw [values]
      rfl
    · rw [values, afterEntry, settle, State.setEach_calls]

/-- The state after the call and the declaration of the local for its result. -/
def answered (lib : Library) (M : Machine F) (f : Function) (σ : State F)
    (incoming : Param → Option (Value F)) : State F :=
  if f.returnType.isVoid then lib.afterEntry M f σ incoming
  else (lib.afterEntry M f σ incoming).set resultName
    (.holds (M.native f.name (f.params.map incoming)).result)

theorem stand_ne_result (names : f.DistinctNames) (isParam : p ∈ f.params) :
    lib.stand p ≠ resultName := by
  rw [stand]
  split
  · exact p.temporary_ne_result
  · exact names.notResult p isParam

theorem locals_afterEntry_of_ne {incoming : Param → Option (Value F)} {name : String}
    (apart : ∀ p ∈ f.params, lib.stand p ≠ name) :
    (lib.afterEntry M f σ incoming).locals name = σ.locals name := by
  rw [afterEntry, settle]
  refine State.locals_setEach_of_notMem fun member => ?_
  obtain ⟨p, isParam, same⟩ := List.mem_map.mp member
  exact apart p isParam same

/-- The call runs the entry point once. -/
theorem exec_entryCall_iff (routines : M.routines = lib.routines target) (names : f.DistinctNames)
    (found : M.entryPoint? f.name = some (lib.delegateOf (.native target) (pointerName f.name) f))
    (convertible : ∀ p ∈ f.params, lib.Convertible p)
    (present : ∀ p ∈ f.params, σ.locals (lib.stand p) ≠ .absent)
    (absent : σ.locals resultName = .absent) :
    exec M σ (.ofSteps ([lib.entryCall f] ++ rest)) = some run ↔
      ∃ incoming : Param → Option (Value F),
        (∀ p ∈ f.params, lib.Provides M p (σ.read machineExpr) (σ.read (.name p.name))
          (σ.locals (lib.stand p)) (incoming p)) ∧
          exec M (lib.answered M f σ incoming) (.ofSteps rest) = some run := by
  have stillAbsent : ∀ incoming, (lib.afterEntry M f σ incoming).locals resultName = .absent :=
    fun incoming => (locals_afterEntry_of_ne fun p => stand_ne_result names).trans absent
  rw [List.singleton_append, Block.ofSteps, List.foldr_cons, entryCall]
  by_cases isVoid : f.returnType.isVoid = true
  · simp only [isVoid, if_true, exec_evaluate_iff,
      eval_entryCall_iff routines names found convertible present, answered]
    constructor
    · rintro ⟨_, _, ⟨incoming, provides, -, rfl⟩, ran⟩
      exact ⟨incoming, provides, ran⟩
    · rintro ⟨incoming, provides, ran⟩
      exact ⟨_, _, ⟨incoming, provides, rfl, rfl⟩, ran⟩
  · have spelled : lib.typeName (.native target) f.returnType ≠ "void" :=
      typeName_ne_void _ fun same => isVoid (TypeRef.isVoid_iff.mpr same)
    simp only [isVoid, Bool.false_eq_true, if_false, exec_bind_iff,
      eval_entryCall_iff routines names found convertible present, answered, spelled]
    constructor
    · rintro ⟨_, _, ⟨incoming, provides, rfl, rfl⟩, -, ran⟩
      exact ⟨incoming, provides, ran⟩
    · rintro ⟨incoming, provides, ran⟩
      exact ⟨_, _, ⟨incoming, provides, rfl, rfl⟩, stillAbsent incoming, ran⟩

/-! ### The state after the call -/

section Answered

variable {incoming : Param → Option (Value F)}

@[simp] theorem fixed_answered : (lib.answered M f σ incoming).fixed = σ.fixed := by
  rw [answered]
  split <;> simp [afterEntry, settle]

@[simp] theorem calls_answered :
    (lib.answered M f σ incoming).calls = σ.calls ++ [⟨f.name, f.params.map incoming⟩] := by
  rw [answered]
  split <;> simp [afterEntry]

theorem locals_answered_of_ne {name : String} (notResult : name ≠ resultName)
    (apart : ∀ p ∈ f.params, lib.stand p ≠ name) :
    (lib.answered M f σ incoming).locals name = σ.locals name := by
  rw [answered]
  split
  · exact locals_afterEntry_of_ne apart
  · rw [State.locals_set_of_ne notResult, locals_afterEntry_of_ne apart]

/-- The variable that stands for a parameter is as the callee left it. -/
theorem locals_answered_stand (names : f.DistinctNames) (isParam : p ∈ f.params) :
    (lib.answered M f σ incoming).locals (lib.stand p) =
      lib.settledSlot p (σ.locals (lib.stand p)) (incoming p)
        ((M.native f.name (f.params.map incoming)).written p.name) := by
  have distinct : (f.params.map lib.stand).Nodup :=
    names.params.of_map.map_on fun _ isParam _ alsoParam => stand_injective names isParam alsoParam
  have left : (lib.afterEntry M f σ incoming).locals (lib.stand p) = _ :=
    State.locals_setEach_of_mem distinct isParam
  rw [answered]
  split
  · exact left
  · rw [State.locals_set_of_ne (stand_ne_result names isParam), left]

/-- A parameter with a temporary is as it was before the call. -/
theorem locals_answered_of_temporary (names : f.DistinctNames) (isParam : p ∈ f.params)
    (hasTemporary : lib.HasTemporary p) :
    (lib.answered M f σ incoming).locals p.name = σ.locals p.name := by
  refine locals_answered_of_ne (names.notResult p isParam) fun q alsoParam same => ?_
  rw [stand] at same
  split at same
  · exact names.notTemporary p isParam q alsoParam same.symm
  · have samePlace := List.inj_on_of_nodup_map names.params alsoParam isParam same
    exact absurd (samePlace ▸ hasTemporary) ‹_›

theorem read_result_answered (notVoid : f.returnType.isVoid = false) :
    (lib.answered M f σ incoming).read (.name resultName) =
      some (M.native f.name (f.params.map incoming)).result := by
  rw [answered, notVoid, State.read_name_eq_some_iff]
  simp

end Answered

end Library

end InteropGlue
