import InteropGlue.Proofs.Glue.FunctionAssignment
/-!
# Handles outlive the native call

A handle object may be collected as soon as nothing refers to it, and the number that was taken out
of it is then of no use to the native code that works with it. A body that passes on the number of a
handle names the handle again after the call, and the collector keeps it until there.

Only handles that are passed in are treated so. A handle passed by reference is in a variable of the
caller, and stays there until the body writes it back, which is after the call.

## Main Definitions

* `Step.entryArgs?`, `Step.kept?` — the statements that call an entry point, and that keep a handle.
* `KeptIn` — a handle is kept before its variable is assigned again.
* `Library.HandlesOutlive` — the order of these statements around a call.

## Main Results

* `Library.implementation_handlesOutlive` — the order that every body has.
-/

namespace InteropGlue

open CSharp

namespace CSharp

/-! ### Statements about native calls -/

/-- The arguments that a statement gives to an entry point, if it calls one. -/
def Step.entryArgs? : Step → Option (List Arg)
  | .evaluate (.call (.member (.name "EntryPoints") _) args) => some args
  | .bind _ (.call (.member (.name "EntryPoints") _) args) => some args
  | _ => none

/-- The variable that a statement keeps alive up to itself. -/
def Step.kept? : Step → Option String
  | .evaluate (.call (.member (.name "GC") "KeepAlive") [.pass _ (.name name)]) => some name
  | _ => none

/-- A statement keeps a variable alive, and none before it assigns the variable. -/
def KeptIn (name : String) (steps : List Step) : Prop :=
  ∃ earlier keeping later, steps = earlier ++ keeping :: later ∧ keeping.kept? = some name ∧
    ∀ s ∈ earlier, name ∉ s.assigns

/-- A statement neither calls an entry point nor keeps anything alive. -/
def Step.IsLocalWork (s : Step) : Prop := s.entryArgs? = none ∧ s.kept? = none

end CSharp

namespace Library

variable {lib : Library} {target : Target} {f : Function} {p : Param} {s : Step}

/-! ### The phases of a body -/

theorem entryArgs?_entryCall :
    (lib.entryCall f).entryArgs? = some (f.params.map lib.callArgument) := by
  unfold entryCall
  split <;> rfl

theorem kept?_entryCall : (lib.entryCall f).kept? = none := by
  unfold entryCall
  split <;> rfl

theorem isLocalWork_temporaries (member : s ∈ lib.temporaries target f) : s.IsLocalWork := by
  rw [temporaries_eq, List.mem_flatMap] at member
  obtain ⟨p, -, isStep⟩ := member
  obtain rfl := List.mem_singleton.mp isStep
  unfold temporaryStep handleTemporary structTemporary classTemporary
  -- Each is a declaration, with or without a conversion or a new instance.
  split <;> split <;> exact ⟨rfl, rfl⟩

theorem isLocalWork_writeBacks (member : s ∈ lib.writeBacks target f) : s.IsLocalWork := by
  rw [writeBacks_eq, List.mem_flatMap] at member
  obtain ⟨p, -, isStep⟩ := member
  unfold writeBackSteps classWriteBack at isStep
  split at isStep
  · rcases List.mem_append.mp isStep with isNew | isCopy
    · split at isNew
      · obtain rfl := List.mem_singleton.mp isNew
        exact ⟨rfl, rfl⟩
      · exact absurd isNew List.not_mem_nil
    · obtain rfl := List.mem_singleton.mp isCopy
      exact ⟨rfl, rfl⟩
  · obtain rfl := List.mem_singleton.mp isStep
    exact ⟨rfl, rfl⟩

theorem isLocalWork_returnSteps (member : s ∈ lib.returnSteps f) : s.IsLocalWork := by
  unfold returnSteps at member
  split at member
  · exact absurd member List.not_mem_nil
  all_goals
    obtain rfl := List.mem_singleton.mp member
    exact ⟨rfl, rfl⟩

/-! ### Handles that are kept -/

/-- What is kept alive are the handles that are passed in. -/
theorem mem_keepAlives : s ∈ lib.keepAlives f ↔
    ∃ p ∈ f.params, lib.kindOf p.type = .handle ∧ p.direction = .input ∧ keepAlive p = s := by
  simp only [keepAlives, buckets, List.mem_map, mem_paramsOfKind, isWritten_eq_false_iff, and_assoc]

theorem assigns_keepAlive : (keepAlive p).assigns = [] := rfl

/-- A handle that is passed in is kept before anything is assigned. -/
theorem keptIn_keepAlives (isParam : p ∈ f.params) (isHandle : lib.kindOf p.type = .handle)
    (input : p.direction = .input) (rest : List Step) :
    KeptIn p.name (lib.keepAlives f ++ rest) := by
  have member : p ∈ (lib.buckets f).inHandles :=
    mem_paramsOfKind.mpr ⟨isParam, isHandle, isWritten_eq_false_iff.mpr input⟩
  obtain ⟨before, after, split⟩ := List.append_of_mem member
  refine ⟨before.map keepAlive, keepAlive p, after.map keepAlive ++ rest, ?_, rfl, ?_⟩
  · rw [keepAlives, split]
    simp
  · intro s isEarlier
    obtain ⟨q, -, rfl⟩ := List.mem_map.mp isEarlier
    rw [assigns_keepAlive]
    exact List.not_mem_nil

/-- The argument for a handle that is passed in is the number taken out of it. -/
theorem callArgument_input (isHandle : lib.kindOf p.type = .handle) (input : p.direction = .input) :
    lib.callArgument p = .value (unwrapCall (.name p.name)) := by
  unfold callArgument
  rw [isHandle, isWritten_eq_false_iff.mpr input]
  rfl

/-- The number of a handle that is passed by reference is taken out of it before the call. -/
theorem mem_temporaries_of_byRef (isParam : p ∈ f.params) (isHandle : lib.kindOf p.type = .handle)
    (byRef : p.direction = .byRef) :
    Step.bind p.temporary (unwrapCall (.name p.name)) ∈ lib.temporaries target f := by
  have member : p ∈ (lib.buckets f).outHandles :=
    mem_paramsOfKind.mpr ⟨isParam, isHandle, by simp [Param.isWritten, byRef]⟩
  have step : lib.handleTemporary target p = .bind p.temporary (unwrapCall (.name p.name)) := by
    unfold handleTemporary
    rw [if_pos (by simp [Param.isRef, byRef])]
  refine List.mem_append_left _ (List.mem_append_left _ ?_)
  exact step ▸ List.mem_map_of_mem member

/-- Where variables have distinct names, a parameter that the caller sets keeps its value up to the
end of the call. -/
theorem notMem_assigns_of_given (convertible : ∀ p ∈ f.params, lib.Convertible p)
    (names : f.DistinctNames) (isParam : p ∈ f.params) (given : p.isOut = false)
    (early : s ∈ lib.temporaries target f ++ [lib.entryCall f]) : p.name ∉ s.assigns := by
  rcases List.mem_append.mp early with isTemporary | isCall
  · rw [temporaries_eq, List.mem_flatMap] at isTemporary
    obtain ⟨q, member, isStep⟩ := isTemporary
    obtain rfl := List.mem_singleton.mp isStep
    obtain ⟨alsoParam, hasTemporary⟩ := mem_temporaryParams.mp member
    rw [assigns_temporaryStep (convertible q alsoParam) hasTemporary]
    split
    · rw [List.mem_singleton]
      exact names.notTemporary p isParam q alsoParam
    · exact List.not_mem_nil
  · obtain rfl := List.mem_singleton.mp isCall
    rw [assigns_entryCall, List.mem_append, not_or]
    constructor
    · split
      · exact List.not_mem_nil
      · rw [List.mem_singleton]
        exact names.notResult p isParam
    -- The call sets only what stands for a parameter that the caller does not set.
    · intro isSet
      obtain ⟨q, alsoParam, passed⟩ := List.mem_filterMap.mp isSet
      by_cases direct : lib.IsDirect q
      · rw [callArgument_of_direct direct] at passed
        cases direction : q.direction with
        | output =>
          rw [direction] at passed
          have stands : lib.stand q = p.name := Option.some.inj passed
          unfold stand at stands
          split at stands
          · exact names.notTemporary p isParam q alsoParam stands.symm
          · obtain rfl := List.inj_on_of_nodup_map names.params alsoParam isParam stands
            simp [Param.isOut, direction] at given
        | input | byRef | buffer =>
          rw [direction] at passed
          cases passed
      · rw [callArgument_of_not_direct (convertible q alsoParam) direct] at passed
        cases passed

end Library

/-! ### All phases together -/

/-- The statements before a call of an entry point, the call, and those after it keep every handle
whose number the native code gets. -/
structure Library.HandlesOutlive (lib : Library) (f : Function) (before : List Step) (call : Step)
    (after : List Step) : Prop where
  calls : call.entryArgs? = some (f.params.map lib.callArgument)
  callsOnce : ∀ s ∈ before ++ after, s.entryArgs? = none
  /-- Nothing is kept alive before the call. -/
  keptLate : ∀ s ∈ before ++ [call], s.kept? = none
  /-- A handle that is passed in gives its number to the call, and is kept after it. -/
  inputs : ∀ p ∈ f.params, lib.kindOf p.type = .handle → p.direction = .input →
    .value (unwrapCall (.name p.name)) ∈ f.params.map lib.callArgument ∧ KeptIn p.name after
  /-- No other variable is kept. -/
  onlyInputs : ∀ s ∈ after, ∀ name, s.kept? = some name →
    ∃ p ∈ f.params, lib.kindOf p.type = .handle ∧ p.direction = .input ∧ p.name = name
  /-- A handle that is passed by reference gives its number to a temporary before the call. -/
  references : ∀ p ∈ f.params, lib.kindOf p.type = .handle → p.direction = .byRef →
    Step.bind p.temporary (unwrapCall (.name p.name)) ∈ before
  /-- A handle that the caller sets stays in its variable up to the end of the call. -/
  unchanged : f.DistinctNames → ∀ p ∈ f.params, p.isOut = false →
    ∀ s ∈ before ++ [call], p.name ∉ s.assigns

namespace Library

variable {lib : Library} {target : Target} {f : Function}

/-- In the body of a function every handle that is passed in is kept alive after the only call of an
entry point and before it is assigned again, nothing is kept alive before the call, and a handle
that is passed by reference stays in the variable of the caller until the call has ended. -/
theorem implementation_handlesOutlive (accepted : lib.Accepted) (member : f ∈ lib.functions) :
    ∃ before call after, lib.implementation target f =
        .method "public override" (lib.signature (.application target) f.name f)
          (.ofSteps (before ++ call :: after)) ∧
      lib.HandlesOutlive f before call after := by
  have convertible := accepted.sound.param_convertible f member
  refine ⟨lib.temporaries target f, lib.entryCall f,
    lib.keepAlives f ++ (lib.writeBacks target f ++ lib.returnSteps f), ?_, ?_⟩
  · unfold implementation implementationSteps
    simp only [List.append_assoc, List.cons_append, List.nil_append]
  exact
    { calls := entryArgs?_entryCall
      callsOnce := by
        intro s isOther
        simp only [List.mem_append] at isOther
        rcases isOther with isTemporary | isKept | isWriteBack | isReturn
        · exact (isLocalWork_temporaries isTemporary).1
        · obtain ⟨p, -, -, -, rfl⟩ := mem_keepAlives.mp isKept
          rfl
        · exact (isLocalWork_writeBacks isWriteBack).1
        · exact (isLocalWork_returnSteps isReturn).1
      keptLate := by
        intro s early
        rcases List.mem_append.mp early with isTemporary | isCall
        · exact (isLocalWork_temporaries isTemporary).2
        · obtain rfl := List.mem_singleton.mp isCall
          exact kept?_entryCall
      inputs := by
        intro p isParam isHandle input
        refine ⟨?_, keptIn_keepAlives isParam isHandle input _⟩
        exact List.mem_map.mpr ⟨p, isParam, callArgument_input isHandle input⟩
      onlyInputs := by
        intro s isLater name keeps
        simp only [List.mem_append] at isLater
        rcases isLater with isKept | isWriteBack | isReturn
        · obtain ⟨p, isParam, isHandle, input, rfl⟩ := mem_keepAlives.mp isKept
          exact ⟨p, isParam, isHandle, input, Option.some.inj keeps⟩
        · rw [(isLocalWork_writeBacks isWriteBack).2] at keeps
          cases keeps
        · rw [(isLocalWork_returnSteps isReturn).2] at keeps
          cases keeps
      references := fun p isParam isHandle byRef => mem_temporaries_of_byRef isParam isHandle byRef
      unchanged := fun names p isParam given s early =>
        notMem_assigns_of_given convertible names isParam given early }

end Library

namespace Sample

/-- A function that takes a handle, and another one by reference. -/
def relocate : Function :=
  { name := "Relocate"
    returnType := .named "bool"
    params :=
      [⟨"vmid", .named "int", .input, none⟩, ⟨"root", .named handleType, .input, none⟩,
        ⟨"context", .named handleType, .byRef, none⟩]
    returnMarshal := none }

/-- A library with a function that takes a handle by reference. -/
def relocating : Library := { Library.empty with functions := [relocate] }

/-- The handle that is passed in outlives the call. -/
theorem relocate_keeps_root :
    relocating.Accepted ∧ relocate ∈ relocating.functions ∧
      ∃ before call after, relocating.implementation .modern relocate =
          .method "public override"
            (relocating.signature (.application .modern) "Relocate" relocate)
            (.ofSteps (before ++ call :: after)) ∧
        (∀ s ∈ before, s.kept? = none) ∧ KeptIn "root" after := by
  have accepted : relocating.Accepted := by cbv
  have member : relocate ∈ relocating.functions := List.mem_singleton.mpr rfl
  obtain ⟨before, call, after, body, outlive⟩ :=
    @Library.implementation_handlesOutlive relocating .modern relocate accepted member
  refine ⟨accepted, member, before, call, after, body, fun s early => ?_, ?_⟩
  · exact outlive.keptLate s (List.mem_append_left _ early)
  · exact (outlive.inputs ⟨"root", .named handleType, .input, none⟩ (by decide) (by decide) rfl).2

/-- The number of a handle that is passed by reference goes to the native code, and no statement
keeps the handle alive. -/
theorem relocate_context_not_kept :
    relocating.Accepted ∧ relocate ∈ relocating.functions ∧
      ⟨"context", .named handleType, .byRef, none⟩ ∈ relocate.params ∧
      Step.bind "contextTemp" (unwrapCall (.name "context")) ∈
        relocating.implementationSteps .modern relocate ∧
      ¬ KeptIn "context" (relocating.implementationSteps .modern relocate) := by
  refine ⟨by cbv, List.mem_singleton.mpr rfl, by decide, ?_, ?_⟩
  · unfold Library.implementationSteps
    simp only [List.mem_append]
    refine .inl (.inl (.inl (.inl ?_)))
    exact @Library.mem_temporaries_of_byRef relocating .modern relocate
      ⟨"context", .named handleType, .byRef, none⟩ (by decide) (by decide) rfl
  · rintro ⟨earlier, keeping, later, steps, keeps, -⟩
    set body := relocating.implementationSteps .modern relocate with isBody
    have kept : body.filterMap Step.kept? = ["root"] := rfl
    have isKept : "context" ∈ body.filterMap Step.kept? :=
      List.mem_filterMap.mpr ⟨keeping, by simp [steps], keeps⟩
    rw [kept] at isKept
    exact absurd isKept (by decide)

end Sample

end InteropGlue
