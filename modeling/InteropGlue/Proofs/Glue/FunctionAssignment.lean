import InteropGlue.Proofs.CSharp.Assignment
import InteropGlue.Proofs.Glue.FunctionProgress
/-!
# Function implementations and definite assignment

A parameter that the caller does not set has a value only after the call of the entry point, and so
has the temporary of such a parameter. Every phase keeps to that except where the key of the
conversions is itself a parameter that the caller does not set: then a conversion before the call
reads it too early. The check of a library looks at the type of the key and not at its direction, so
such functions are accepted.

## Main Definitions

* `Library.assignedBefore`, `Library.assignedAfter` — the variables with a value before the call of
  the entry point, and after it.

## Main Results

* `Library.stand_mem_assignedAfter` — after the call, the variable of each parameter has a value.
* `Library.implementation_definite` — if the key is given where the conversions before the call need
  it, no variable is read too early and every parameter is set.
* `Library.implementation_definite_iff` — where variables have distinct names, only then.
-/

namespace InteropGlue

open CSharp

/-! ### Parameters on entry and on return -/

namespace Function

/-- The parameters that the caller sets. -/
def givenNames (f : Function) : List String := (f.params.filter fun p => !p.isOut).map (·.name)

/-- The parameters that only the callee sets. -/
def owedNames (f : Function) : List String := (f.params.filter (·.isOut)).map (·.name)

variable {f : Function} {name : String}

theorem mem_givenNames :
    name ∈ f.givenNames ↔ ∃ p ∈ f.params, p.isOut = false ∧ p.name = name := by
  simp [givenNames, and_assoc]

theorem mem_owedNames : name ∈ f.owedNames ↔ ∃ p ∈ f.params, p.isOut = true ∧ p.name = name := by
  simp [owedNames, and_assoc]

end Function

namespace Library

variable {lib : Library} {target : Target} {mode : Mode} {f : Function} {p : Param} {name : String}
  {required : List String}

theorem given_signature : (lib.signature mode name f).given = f.givenNames := by
  have passed : ∀ p : Param, (p.direction.passing != .out) = !p.isOut := by
    rintro ⟨_, _, direction, _⟩
    cases direction <;> rfl
  simp [Signature.given, signature, parameters, parameter, List.filter_map, Function.comp_def,
    Function.givenNames, passed]

theorem owed_signature : (lib.signature mode name f).owed = f.owedNames := by
  have passed : ∀ p : Param, (p.direction.passing == .out) = p.isOut := by
    rintro ⟨_, _, direction, _⟩
    cases direction <;> rfl
  simp [Signature.owed, signature, parameters, parameter, List.filter_map, Function.comp_def,
    Function.owedNames, passed]

@[simp] theorem reads_unwrapCall : (unwrapCall (.name name)).reads = [machineParam, name] := by
  simp [unwrapCall, machineExpr]

@[simp] theorem reads_wrapCall : (wrapCall (.name name)).reads = [machineParam, name] := by
  simp [wrapCall, machineExpr]

@[simp] theorem outs_unwrapCall : (unwrapCall (.name name)).outs = [] := by
  simp [unwrapCall, Expr.callOwn, Expr.outs, Arg.value, Arg.out?]

@[simp] theorem outs_wrapCall : (wrapCall (.name name)).outs = [] := by
  simp [wrapCall, Expr.callOwn, Expr.outs, Arg.value, Arg.out?]

/-! ### Temporaries -/

/-- Only a temporary with a converted value reads something: the key and the parameter. -/
theorem reads_temporaryStep (convertible : lib.Convertible p) (hasTemporary : lib.HasTemporary p) :
    (lib.temporaryStep target p).reads = if p.isRef then [machineParam, p.name] else [] := by
  rw [temporaryStep_eq convertible hasTemporary]
  split_ifs <;> simp [Step.reads]

theorem leaves_temporaryStep (convertible : lib.Convertible p)
    (hasTemporary : lib.HasTemporary p) : (lib.temporaryStep target p).leaves = false := by
  rw [temporaryStep_eq convertible hasTemporary]
  split_ifs <;> rfl

/-- A temporary has a value at once unless it stands for a handle or struct that only the callee
sets. -/
theorem assigns_temporaryStep (convertible : lib.Convertible p)
    (hasTemporary : lib.HasTemporary p) :
    (lib.temporaryStep target p).assigns =
      if p.isRef ∨ lib.kindOf p.type = .classType then [p.temporary] else [] := by
  rw [temporaryStep_eq convertible hasTemporary]
  by_cases isRef : p.isRef = true
  · simp [isRef, Step.assigns]
  · by_cases isClass : lib.kindOf p.type = .classType <;>
      simp [isRef, isClass, Step.assigns, Expr.outs]

section Before

variable (convertible : ∀ p ∈ f.params, lib.Convertible p)
include convertible

theorem leaves_temporaries : ∀ s ∈ lib.temporaries target f, s.leaves = false := by
  intro s member
  simp only [temporaries_eq, List.mem_flatMap, List.mem_singleton] at member
  obtain ⟨p, member, rfl⟩ := member
  obtain ⟨isParam, hasTemporary⟩ := mem_temporaryParams.mp member
  exact leaves_temporaryStep (convertible p isParam) hasTemporary

/-- The temporaries read parameters that the caller sets, if the key is one of them. -/
theorem definite_temporaries
    (key : ∀ p ∈ f.params, lib.Crossing p.type → p.direction = .byRef →
      machineParam ∈ f.givenNames) :
    (Block.ofSteps (lib.temporaries target f)).Definite required [] f.givenNames := by
  rw [temporaries_eq]
  refine Block.definite_each (fun p member s isStep => ?_) fun p member => ?_
  · obtain ⟨isParam, hasTemporary⟩ := mem_temporaryParams.mp member
    obtain rfl := List.mem_singleton.mp isStep
    exact leaves_temporaryStep (convertible p isParam) hasTemporary
  · obtain ⟨isParam, hasTemporary⟩ := mem_temporaryParams.mp member
    rw [Block.definite_cons (leaves_temporaryStep (convertible p isParam) hasTemporary),
      reads_temporaryStep (convertible p isParam) hasTemporary, Block.definite_nil]
    refine ⟨?_, List.nil_subset _⟩
    split_ifs with isRef
    · have direction : p.direction = .byRef := by simpa [Param.isRef] using isRef
      have given : p.name ∈ f.givenNames :=
        Function.mem_givenNames.mpr ⟨p, isParam, by simp [Param.isOut, direction], rfl⟩
      simp [key p isParam hasTemporary.1 direction, given]
    · exact List.nil_subset _

end Before

/-! ### The call of the entry point -/

/-- The variables with a value before the call of the entry point. -/
def assignedBefore (lib : Library) (target : Target) (f : Function) : List String :=
  (lib.temporaries target f).flatMap Step.assigns ++ f.givenNames

/-- The variables with a value after the call of the entry point. -/
def assignedAfter (lib : Library) (target : Target) (f : Function) : List String :=
  (lib.entryCall f).assigns ++ lib.assignedBefore target f

theorem givenNames_subset_assignedBefore : f.givenNames ⊆ lib.assignedBefore target f :=
  List.subset_append_right _ _

theorem assignedBefore_subset_assignedAfter :
    lib.assignedBefore target f ⊆ lib.assignedAfter target f :=
  List.subset_append_right _ _

theorem reads_entryCall :
    (lib.entryCall f).reads = f.params.flatMap fun p => (lib.callArgument p).reads := by
  rw [entryCall]
  split <;> simp [Step.reads, List.flatMap_map]

theorem assigns_entryCall :
    (lib.entryCall f).assigns = (if f.returnType.isVoid then [] else [resultName]) ++
      f.params.filterMap fun p => (lib.callArgument p).out? := by
  rw [entryCall]
  split <;> simp [Step.assigns, Expr.outs, List.filterMap_map]

theorem leaves_entryCall : (lib.entryCall f).leaves = false := by
  rw [entryCall]
  split <;> rfl

theorem reads_callArgument_of_direct (direct : lib.IsDirect p) :
    (lib.callArgument p).reads = if p.isOut then [] else [lib.stand p] := by
  rw [callArgument_of_direct direct]
  cases direction : p.direction <;> simp [Direction.passing, Arg.reads, Param.isOut, direction]

/-- A converted argument reads the key and the parameter. -/
theorem reads_callArgument_of_crossing (convertible : lib.Convertible p)
    (crossing : lib.Crossing p.type) (input : p.direction = .input) :
    (lib.callArgument p).reads = [machineParam, p.name] := by
  have notDirect : ¬ lib.IsDirect p := by
    rintro (⟨-, isWritten⟩ | ⟨notCrossing, -⟩)
    · simp [Param.isWritten, input] at isWritten
    · exact notCrossing crossing
  rw [callArgument_of_not_direct convertible notDirect, if_pos crossing]
  simp

theorem direct_of_isOut (convertible : lib.Convertible p) (isOut : p.isOut = true) :
    lib.IsDirect p := by
  by_contra notDirect
  have input := isInput_of_not_direct convertible notDirect
  simp [Param.isOut, input] at isOut

/-- The variable of a parameter that the caller sets has a value before the call. -/
theorem stand_mem_assignedBefore (convertible : lib.Convertible p) (isParam : p ∈ f.params)
    (given : p.isOut = false) : lib.stand p ∈ lib.assignedBefore target f := by
  rw [stand]
  split_ifs with hasTemporary
  · refine List.mem_append_left _ (List.mem_flatMap.mpr ⟨lib.temporaryStep target p, ?_, ?_⟩)
    · rw [temporaries_eq]
      exact List.mem_flatMap.mpr ⟨p, mem_temporaryParams.mpr ⟨isParam, hasTemporary⟩, by simp⟩
    · have early : p.isRef = true ∨ lib.kindOf p.type = .classType := by
        cases direction : p.direction with
        | input => simp [HasTemporary, Param.isWritten, direction] at hasTemporary
        | output => simp [Param.isOut, direction] at given
        | byRef => exact .inl (by simp [Param.isRef, direction])
        | buffer =>
          rcases hasTemporary.1 with kind | kind | kind
          · exact absurd direction (convertible.2.1 (.inl kind))
          · exact absurd direction (convertible.2.1 (.inr kind))
          · exact .inr kind
      rw [assigns_temporaryStep convertible hasTemporary, if_pos early]
      exact List.mem_singleton_self _
  · exact givenNames_subset_assignedBefore
      (Function.mem_givenNames.mpr ⟨p, isParam, given, rfl⟩)

/-- After the call the variable of each parameter has a value. -/
theorem stand_mem_assignedAfter (convertible : lib.Convertible p) (isParam : p ∈ f.params) :
    lib.stand p ∈ lib.assignedAfter target f := by
  by_cases isOut : p.isOut = true
  · have direction : p.direction = .output := by simpa [Param.isOut] using isOut
    have passed : (lib.callArgument p).out? = some (lib.stand p) := by
      rw [callArgument_of_direct (direct_of_isOut convertible isOut), direction]
      rfl
    rw [assignedAfter, assigns_entryCall]
    exact List.mem_append_left _
      (List.mem_append_right _ (List.mem_filterMap.mpr ⟨p, isParam, passed⟩))
  · exact assignedBefore_subset_assignedAfter
      (stand_mem_assignedBefore convertible isParam (by simpa using isOut))

theorem result_mem_assignedAfter (notVoid : f.returnType.isVoid = false) :
    resultName ∈ lib.assignedAfter target f := by
  rw [assignedAfter, assigns_entryCall, notVoid]
  simp

/-- The call reads variables with a value, if the key is one of them. -/
theorem reads_entryCall_subset (convertible : ∀ p ∈ f.params, lib.Convertible p)
    (key : ∀ p ∈ f.params, lib.Crossing p.type → p.direction = .input →
      machineParam ∈ f.givenNames) :
    (lib.entryCall f).reads ⊆ lib.assignedBefore target f := by
  rw [reads_entryCall]
  intro name member
  obtain ⟨p, isParam, read⟩ := List.mem_flatMap.mp member
  by_cases direct : lib.IsDirect p
  · rw [reads_callArgument_of_direct direct] at read
    split_ifs at read with isOut
    · simp at read
    · obtain rfl := List.mem_singleton.mp read
      exact stand_mem_assignedBefore (convertible p isParam) isParam (by simpa using isOut)
  · have input := isInput_of_not_direct (convertible p isParam) direct
    have given : p.name ∈ f.givenNames :=
      Function.mem_givenNames.mpr ⟨p, isParam, by simp [Param.isOut, input], rfl⟩
    refine givenNames_subset_assignedBefore ?_
    by_cases crossing : lib.Crossing p.type
    · rw [reads_callArgument_of_crossing (convertible p isParam) crossing input] at read
      rcases List.mem_pair.mp read with rfl | rfl
      · exact key p isParam crossing input
      · exact given
    · rw [callArgument_of_not_direct (convertible p isParam) direct, if_neg crossing] at read
      obtain rfl : name = p.name := by simpa using read
      exact given

/-! ### After the call -/

/-- The key of an accepted function with conversions has a value after the call. -/
theorem machine_mem_assignedAfter (accepted : lib.Accepted) (member : f ∈ lib.functions)
    (converts : lib.Converted f.returnType ∨ ∃ p ∈ f.params, lib.Converted p.type) :
    machineParam ∈ lib.assignedAfter target f := by
  obtain ⟨key, found, -⟩ := accepted.sound.keyed f (List.mem_append_left _ member) converts
  have isParam : key ∈ f.params := List.mem_of_find?_eq_some found
  have named : key.name = machineParam := by simpa using List.find?_some found
  -- The key is never converted, so it stands for itself.
  have own : lib.stand key = machineParam := by
    rw [stand, if_neg fun hasTemporary =>
      not_crossing_machineParam accepted member found hasTemporary.1, named]
  have assigned := @stand_mem_assignedAfter lib target f key
    (accepted.sound.param_convertible f member key isParam) isParam
  rwa [own] at assigned

theorem definite_keepAlives {assigned : List String} (subset : f.givenNames ⊆ assigned) :
    (Block.ofSteps (lib.keepAlives f)).Definite required [] assigned := by
  rw [keepAlives, List.map_eq_flatMap]
  refine Block.definite_each (by simp [keepAlive, Step.leaves]) fun p member => ?_
  obtain ⟨isParam, -, notWritten⟩ := mem_paramsOfKind.mp member
  have input := isWritten_eq_false_iff.mp notWritten
  have given : p.name ∈ f.givenNames :=
    Function.mem_givenNames.mpr ⟨p, isParam, by simp [Param.isOut, input], rfl⟩
  rw [Block.definite_cons rfl, Block.definite_nil]
  simp [keepAlive, Step.reads, subset given]

theorem leaves_writeBackSteps : ∀ s ∈ lib.writeBackSteps target p, s.leaves = false := by
  intro s member
  simp only [writeBackSteps, classWriteBack] at member
  split_ifs at member
  all_goals simp only [List.mem_append, List.mem_singleton, List.not_mem_nil, false_or] at member
  · rcases member with rfl | rfl <;> rfl
  · rw [member]
    rfl
  · rw [member]
    rfl

/-- A parameter is written back from its temporary. A class that the caller does not set gets an
instance first. -/
theorem definite_writeBackSteps {assigned : List String} (machine : machineParam ∈ assigned)
    (temporary : p.temporary ∈ assigned) (given : p.isOut = false → p.name ∈ assigned) :
    (Block.ofSteps (lib.writeBackSteps target p)).Definite required [] assigned := by
  rw [writeBackSteps, classWriteBack]
  split_ifs with isClass isOut
  · rw [List.singleton_append, Block.definite_cons rfl, Block.definite_cons rfl,
      Block.definite_nil]
    simp [Step.reads, Step.assigns, machineExpr, Expr.outs, machine, temporary]
  · rw [List.nil_append, Block.definite_cons rfl, Block.definite_nil]
    simp [Step.reads, machineExpr, machine, temporary, given (by simpa using isOut)]
  · rw [Block.definite_cons rfl, Block.definite_nil]
    simp [valueWriteBack, Step.reads, machine, temporary]

theorem name_mem_assigns_writeBackSteps (isOut : p.isOut = true) :
    p.name ∈ (lib.writeBackSteps target p).flatMap Step.assigns := by
  rw [writeBackSteps, classWriteBack, if_pos isOut]
  split_ifs <;> simp [valueWriteBack, Step.assigns]

/-- What the phases after the call find with a value. -/
structure Settled (lib : Library) (f : Function) (assigned : List String) : Prop where
  given : f.givenNames ⊆ assigned
  stands : ∀ p ∈ f.params, lib.stand p ∈ assigned
  machine : (lib.Converted f.returnType ∨ ∃ p ∈ f.params, lib.Converted p.type) →
    machineParam ∈ assigned
  result : f.returnType.isVoid = false → resultName ∈ assigned

theorem Settled.mono {assigned larger : List String} (settled : lib.Settled f assigned)
    (subset : assigned ⊆ larger) : lib.Settled f larger where
  given := List.Subset.trans settled.given subset
  stands p isParam := subset (settled.stands p isParam)
  machine converts := subset (settled.machine converts)
  result notVoid := subset (settled.result notVoid)

theorem settled_assignedAfter (accepted : lib.Accepted) (member : f ∈ lib.functions) :
    lib.Settled f (lib.assignedAfter target f) where
  given := List.Subset.trans givenNames_subset_assignedBefore assignedBefore_subset_assignedAfter
  stands p isParam :=
    stand_mem_assignedAfter (accepted.sound.param_convertible f member p isParam) isParam
  machine := machine_mem_assignedAfter accepted member
  result := result_mem_assignedAfter

theorem definite_writeBacks {assigned : List String} (settled : lib.Settled f assigned) :
    (Block.ofSteps (lib.writeBacks target f)).Definite required [] assigned := by
  rw [writeBacks_eq]
  refine Block.definite_each (fun p _ => leaves_writeBackSteps) fun p member => ?_
  obtain ⟨isParam, hasTemporary⟩ := mem_temporaryParams.mp member
  have temporary := settled.stands p isParam
  rw [stand, if_pos hasTemporary] at temporary
  exact definite_writeBackSteps (settled.machine (.inr ⟨p, isParam, hasTemporary.1.converted⟩))
    temporary fun given => settled.given (Function.mem_givenNames.mpr ⟨p, isParam, given, rfl⟩)

/-- Every parameter that only the callee sets is set by the call or written back. -/
theorem owedNames_subset {assigned : List String} (settled : lib.Settled f assigned) :
    f.owedNames ⊆ (lib.writeBacks target f).flatMap Step.assigns ++ assigned := by
  intro name member
  obtain ⟨p, isParam, isOut, rfl⟩ := Function.mem_owedNames.mp member
  by_cases hasTemporary : lib.HasTemporary p
  · refine List.mem_append_left _ ?_
    rw [writeBacks_eq, List.flatMap_assoc]
    exact List.mem_flatMap.mpr ⟨p, mem_temporaryParams.mpr ⟨isParam, hasTemporary⟩,
      name_mem_assigns_writeBackSteps isOut⟩
  · have own := settled.stands p isParam
    rw [stand, if_neg hasTemporary] at own
    exact List.mem_append_right _ own

/-- The result is returned when every parameter is set. -/
theorem definite_returnSteps {assigned : List String} (settled : lib.Settled f assigned)
    (owed : required ⊆ assigned) :
    (Block.ofSteps (lib.returnSteps f)).Definite required required assigned := by
  by_cases isVoid : f.returnType = .named "void"
  · rw [returnSteps, kindOf_eq_void_iff.mpr isVoid, Block.definite_nil]
    exact owed
  have result : resultName ∈ assigned :=
    settled.result (by rw [← Bool.not_eq_true, TypeRef.isVoid_iff]; exact isVoid)
  have machine : lib.Crossing f.returnType → machineParam ∈ assigned :=
    fun crossing => settled.machine (.inl crossing.converted)
  rw [returnSteps]
  cases kind : lib.kindOf f.returnType with
  | void => exact absurd (kindOf_eq_void_iff.mp kind) isVoid
  | handle => simp [Block.definite_leave, result, machine (.inl kind), owed]
  | structType => simp [Block.definite_leave, result, machine (.inr (.inl kind)), owed]
  | classType => simp [Block.definite_leave, result, machine (.inr (.inr kind)), owed]
  | _ => simp [Block.definite_leave, result, owed]

/-! ### Whole bodies -/

/-- A body is definite exactly when its temporaries and its call read what the caller sets: the
phases after the call read nothing too early. -/
theorem methodDefinite_iff (accepted : lib.Accepted) (member : f ∈ lib.functions) :
    MethodDefinite (lib.implementation target f) ↔
      (Block.ofSteps (lib.temporaries target f)).Definite f.owedNames [] f.givenNames ∧
        (lib.entryCall f).reads ⊆ lib.assignedBefore target f := by
  have convertible := accepted.sound.param_convertible f member
  have settled := @settled_assignedAfter lib target f accepted member
  have keeps : ∀ s ∈ lib.keepAlives f, s.leaves = false := by
    simp [keepAlives, keepAlive, Step.leaves]
  have writes : ∀ s ∈ lib.writeBacks target f, s.leaves = false := by
    intro s isStep
    rw [writeBacks_eq, List.mem_flatMap] at isStep
    obtain ⟨p, -, isStep⟩ := isStep
    exact leaves_writeBackSteps s isStep
  set kept := (lib.keepAlives f).flatMap Step.assigns ++ lib.assignedAfter target f
  have settledKept : lib.Settled f kept := settled.mono (List.subset_append_right _ _)
  set written := (lib.writeBacks target f).flatMap Step.assigns ++ kept
  have settledWritten : lib.Settled f written := settledKept.mono (List.subset_append_right _ _)
  -- What follows the call passes whatever came before it.
  have after : (Block.ofSteps (lib.keepAlives f ++ (lib.writeBacks target f ++
      lib.returnSteps f))).Definite f.owedNames f.owedNames (lib.assignedAfter target f) := by
    rw [Block.definite_append_iff keeps, Block.definite_append_iff writes]
    exact ⟨definite_keepAlives settled.given, definite_writeBacks settledKept,
      definite_returnSteps settledWritten (owedNames_subset settledKept)⟩
  rw [implementation, MethodDefinite, given_signature, owed_signature, implementationSteps]
  simp only [List.append_assoc, List.cons_append, List.nil_append]
  rw [Block.definite_append_iff (leaves_temporaries convertible),
    Block.definite_cons leaves_entryCall]
  exact and_congr_right fun _ => ⟨And.left, fun reads => ⟨reads, after⟩⟩

/-- No variable is read before it has a value, and every parameter that only the callee sets has one
on return, if the caller sets the key where a conversion before the call takes it. -/
theorem implementation_definite (accepted : lib.Accepted) (member : f ∈ lib.functions)
    (keyGiven : lib.KeyGiven f) : MethodDefinite (lib.implementation target f) := by
  have convertible := accepted.sound.param_convertible f member
  have key : ∀ p ∈ f.params, lib.Crossing p.type → p.direction = .input ∨ p.direction = .byRef →
      machineParam ∈ f.givenNames := by
    intro p isParam crossing early
    obtain ⟨key, found, -⟩ := accepted.sound.keyed f (List.mem_append_left _ member)
      (.inr ⟨p, isParam, crossing.converted⟩)
    have given : key.isOut = false := by
      by_contra isOut
      have apart := keyGiven key found (by simpa [Param.isOut] using isOut) p isParam crossing
      exact early.elim apart.1 apart.2
    exact Function.mem_givenNames.mpr ⟨key, List.mem_of_find?_eq_some found, given,
      by simpa using List.find?_some found⟩
  exact (methodDefinite_iff accepted member).mpr
    ⟨definite_temporaries convertible fun p isParam crossing isRef =>
        key p isParam crossing (.inr isRef),
      reads_entryCall_subset convertible fun p isParam crossing input =>
        key p isParam crossing (.inl input)⟩

/-- Where variables have distinct names, a body reads no variable too early exactly when the caller
sets the key wherever a conversion before the call takes it. -/
theorem implementation_definite_iff (accepted : lib.Accepted) (member : f ∈ lib.functions)
    (names : f.DistinctNames) :
    MethodDefinite (lib.implementation target f) ↔ lib.KeyGiven f := by
  refine ⟨fun definite key found output p isParam crossing => ?_,
    implementation_definite accepted member⟩
  have convertible := accepted.sound.param_convertible f member
  obtain ⟨temporaries, call⟩ := (methodDefinite_iff accepted member).mp definite
  -- The key is no temporary and not set by the caller, so it has no value before the call.
  have late : machineParam ∉ lib.assignedBefore target f := by
    intro early
    rcases List.mem_append.mp early with isTemporary | given
    · simp only [temporaries_eq, List.mem_flatMap, List.mem_singleton] at isTemporary
      obtain ⟨_, ⟨q, isTemporary, rfl⟩, assigned⟩ := isTemporary
      obtain ⟨alsoParam, hasTemporary⟩ := mem_temporaryParams.mp isTemporary
      rw [assigns_temporaryStep (convertible q alsoParam) hasTemporary] at assigned
      split_ifs at assigned
      · exact q.temporary_ne_machine (List.mem_singleton.mp assigned).symm
      · simp at assigned
    · obtain ⟨q, alsoParam, notOut, named⟩ := Function.mem_givenNames.mp given
      have isKey : key.name = machineParam := by simpa using List.find?_some found
      obtain rfl := List.inj_on_of_nodup_map names.params alsoParam
        (List.mem_of_find?_eq_some found) (named.trans isKey.symm)
      simp [Param.isOut, output] at notOut
  constructor
  · intro input
    refine late (call ?_)
    rw [reads_entryCall]
    refine List.mem_flatMap.mpr ⟨p, isParam, ?_⟩
    rw [reads_callArgument_of_crossing (convertible p isParam) crossing input]
    exact List.mem_cons_self
  · intro isRef
    have hasTemporary : lib.HasTemporary p := ⟨crossing, by simp [Param.isWritten, isRef]⟩
    refine late (Block.Definite.reads_subset (leaves_temporaries convertible) temporaries
      (s := lib.temporaryStep target p) ?_ ?_)
    · rw [temporaries_eq]
      exact List.mem_flatMap.mpr ⟨p, mem_temporaryParams.mpr ⟨isParam, hasTemporary⟩, by simp⟩
    · rw [reads_temporaryStep (convertible p isParam) hasTemporary,
        if_pos (by simp [Param.isRef, isRef])]
      exact List.mem_cons_self

end Library

namespace Sample

/-- A body that passes: the caller sets the key. -/
theorem getItems_definite :
    library.Accepted ∧ getItems ∈ library.functions ∧ getItems.DistinctNames ∧
      MethodDefinite (library.implementation .legacy getItems) := by
  have member : getItems ∈ library.functions := List.mem_singleton.mpr rfl
  have names : getItems.DistinctNames := ⟨by decide, by decide, by decide⟩
  have keyGiven : library.KeyGiven getItems := by
    intro key found output
    obtain rfl := Option.some.inj found
    exact absurd output (by decide)
  exact ⟨library_accepted, member, names,
    (Library.implementation_definite_iff library_accepted member names).mpr keyGiven⟩

/-- A function that sets its key and takes a handle. -/
def locate : Function :=
  { name := "Locate"
    returnType := .named "void"
    params :=
      [⟨"vmid", .named "int", .output, none⟩, ⟨"context", .named handleType, .input, none⟩]
    returnMarshal := none }

/-- A library with a function that sets its key. -/
def locating : Library := { Library.empty with functions := [locate] }

/-- The check accepts a function that converts a handle with the key before the call sets it. -/
theorem locate_not_definite :
    locating.Accepted ∧ locate ∈ locating.functions ∧
      ¬ MethodDefinite (locating.implementation .modern locate) := by
  refine ⟨by cbv, List.mem_singleton.mpr rfl, by decide⟩

end Sample

end InteropGlue
