import InteropGlue.Proofs.Glue.FunctionCalls
/-!
# Variables of a function

The body of a function has the parameters of the function, a temporary for each handle or record
that the callee writes, and the result of the call in scope. The names of the temporaries and of the
result are made up from those of the parameters or fixed, and no rule about a library speaks of the
names of parameters. So the names may clash, in three ways and no more.

## Main Definitions

* `Block.locals`, `Member.scopeNames` — the names that a method brings into scope.
* `Variable` — the variables of a function by their origin.
* `Library.VariablesApart` — the three clashes do not happen.

## Main Results

* `Library.scopeNames_eq_map_variablesOf` — the names in scope are those of the variables.
* `Library.implementation_scopeNames_distinct_iff` — when they are distinct, and that each of them
  is then the name of one variable only.
-/

namespace InteropGlue

open CSharp

/-! ### Names that a method brings into scope -/

/-- The local that a statement declares. -/
def CSharp.Step.local? : Step → Option String
  | .declare _ name => some name
  | .bind name _ => some name
  | _ => none

/-- The locals that statements declare, at any depth. -/
def CSharp.Block.locals : Block → List String
  | .done => []
  | .step s rest => s.local?.toList ++ rest.locals
  | .guarded _ body rest => body.locals ++ rest.locals
  | .counted index _ body rest => index :: body.locals ++ rest.locals

/-- The parameters of a method and the locals of its body. -/
def CSharp.Member.scopeNames : Member → List String
  | .method _ signature body => signature.params.map (·.name) ++ body.locals
  | _ => []

theorem CSharp.Block.locals_ofSteps (steps : List Step) :
    (Block.ofSteps steps).locals = steps.filterMap Step.local? := by
  induction steps with
  | nil => rfl
  | cons s steps ih =>
    show s.local?.toList ++ (Block.ofSteps steps).locals = _
    rw [ih, List.filterMap_cons]
    cases s.local? <;> rfl

/-! ### Variables of a function -/

/-- A variable of the body of a function. -/
inductive Variable
  | param (p : Param)
  /-- The temporary of a parameter. -/
  | temporary (p : Param)
  /-- The result of the call. -/
  | result
  deriving DecidableEq, Repr

/-- The name of a variable. -/
def Variable.name : Variable → String
  | .param p => p.name
  | .temporary p => p.temporary
  | .result => resultName

namespace Library

variable (lib : Library) (target : Target) (f : Function)

/-- The variables of a function. -/
def variablesOf : List Variable :=
  f.params.map .param ++ ((lib.temporaryParams f).map .temporary ++
    if f.returnType.isVoid then [] else [.result])

/-- The parameters of a function have different names, and none of them has the name of the result
or of a temporary. -/
structure VariablesApart : Prop where
  params : (f.params.map (·.name)).Nodup
  notResult : f.returnType.isVoid = false → ∀ p ∈ f.params, p.name ≠ resultName
  notTemporary : ∀ p ∈ f.params, ∀ q ∈ f.params, lib.HasTemporary q → p.name ≠ q.temporary

variable {lib target f}

theorem local?_temporaryStep (p : Param) :
    (lib.temporaryStep target p).local? = some p.temporary := by
  unfold temporaryStep handleTemporary structTemporary classTemporary
  split
  · split <;> rfl
  · cases p.direction <;> rfl
  · split <;> rfl

theorem locals_temporaries :
    (lib.temporaries target f).filterMap Step.local? =
      (lib.temporaryParams f).map Param.temporary := by
  rw [temporaries_eq, List.filterMap_flatMap, List.map_eq_flatMap]
  refine List.flatMap_congr fun p _ => ?_
  rw [List.filterMap_cons, local?_temporaryStep]
  rfl

theorem locals_entryCall :
    [lib.entryCall f].filterMap Step.local? =
      if f.returnType.isVoid then [] else [resultName] := by
  unfold entryCall
  split_ifs <;> rfl

theorem locals_keepAlives : (lib.keepAlives f).filterMap Step.local? = [] := by
  rw [keepAlives, List.filterMap_map]
  exact List.filterMap_eq_nil_iff.mpr fun _ _ => rfl

theorem locals_writeBacks : (lib.writeBacks target f).filterMap Step.local? = [] := by
  rw [writeBacks_eq, List.filterMap_flatMap]
  refine List.flatMap_eq_nil_iff.mpr fun p _ => ?_
  unfold writeBackSteps classWriteBack
  split_ifs <;> rfl

theorem locals_returnSteps : (lib.returnSteps f).filterMap Step.local? = [] := by
  unfold returnSteps
  split <;> rfl

/-- The names in scope in the body of a function: of the parameters, then of the temporaries, then
of the result. -/
theorem scopeNames_eq :
    (lib.implementation target f).scopeNames = f.params.map (·.name) ++
      ((lib.temporaryParams f).map Param.temporary ++
        if f.returnType.isVoid then [] else [resultName]) := by
  have body : (Block.ofSteps (lib.implementationSteps target f)).locals =
      (lib.temporaryParams f).map Param.temporary ++
        if f.returnType.isVoid then [] else [resultName] := by
    rw [Block.locals_ofSteps, implementationSteps]
    simp only [List.filterMap_append, locals_temporaries, locals_entryCall, locals_keepAlives,
      locals_writeBacks, locals_returnSteps, List.append_nil]
  have parameters : (lib.signature (.application target) f.name f).params.map (·.name) =
      f.params.map (·.name) := names_parameters
  rw [implementation, Member.scopeNames, parameters, body]

/-- The names in scope are those of the variables. -/
theorem scopeNames_eq_map_variablesOf :
    (lib.implementation target f).scopeNames = (lib.variablesOf f).map Variable.name := by
  rw [scopeNames_eq, variablesOf, List.map_append, List.map_append, List.map_map, List.map_map]
  split_ifs <;> rfl

/-- Two parameters of a function have different temporaries. -/
theorem nodup_temporaries (params : (f.params.map (·.name)).Nodup) :
    ((lib.temporaryParams f).map Param.temporary).Nodup := by
  refine (nodup_temporaryParams params.of_map).map_on fun p isMember q alsoMember same => ?_
  exact List.inj_on_of_nodup_map params (mem_temporaryParams.mp isMember).1
    (mem_temporaryParams.mp alsoMember).1 (Param.temporary_injective same)

theorem nodup_scopeNames_iff :
    (lib.implementation target f).scopeNames.Nodup ↔ lib.VariablesApart f := by
  rw [scopeNames_eq, List.nodup_append', List.nodup_append', List.disjoint_append_right]
  constructor
  · rintro ⟨params, -, temporaries, result⟩
    refine ⟨params, fun notVoid p isParam same => ?_,
      fun p isParam q alsoParam temporary same => ?_⟩
    · rw [notVoid] at result
      exact result (List.mem_map_of_mem isParam) (List.mem_singleton.mpr same)
    · have isTemporary : q.temporary ∈ (lib.temporaryParams f).map Param.temporary :=
        List.mem_map_of_mem (mem_temporaryParams.mpr ⟨alsoParam, temporary⟩)
      exact temporaries (List.mem_map_of_mem isParam) (same ▸ isTemporary)
  · intro apart
    refine ⟨apart.params, ⟨nodup_temporaries apart.params, by split_ifs <;> simp, ?_⟩, ?_, ?_⟩
    · -- No temporary is called like the result, whatever its parameter is called.
      intro name isTemporary isResult
      obtain ⟨p, -, rfl⟩ := List.mem_map.mp isTemporary
      split_ifs at isResult
      · exact absurd isResult List.not_mem_nil
      · exact p.temporary_ne_result (List.mem_singleton.mp isResult)
    · intro name isName isTemporary
      obtain ⟨p, isParam, rfl⟩ := List.mem_map.mp isName
      obtain ⟨q, isTemporary, same⟩ := List.mem_map.mp isTemporary
      obtain ⟨alsoParam, temporary⟩ := mem_temporaryParams.mp isTemporary
      exact apart.notTemporary p isParam q alsoParam temporary same.symm
    · intro name isName isResult
      obtain ⟨p, isParam, rfl⟩ := List.mem_map.mp isName
      split_ifs at isResult with isVoid
      · exact absurd isResult List.not_mem_nil
      · exact apart.notResult (by simpa using isVoid) p isParam (List.mem_singleton.mp isResult)

/-- The names in scope in the body of a function are distinct exactly if its parameters have
different names, which are not those of the result and the temporaries. Then each of them is the
name of one variable only. -/
theorem implementation_scopeNames_distinct_iff (lib : Library) (target : Target) (f : Function) :
    ((lib.implementation target f).scopeNames.Nodup ↔ lib.VariablesApart f) ∧
      (lib.VariablesApart f → ∀ v ∈ lib.variablesOf f, ∀ w ∈ lib.variablesOf f,
        v.name = w.name → v = w) := by
  refine ⟨nodup_scopeNames_iff, fun apart v isVariable w alsoVariable same => ?_⟩
  have distinct := (@nodup_scopeNames_iff lib target f).mpr apart
  rw [scopeNames_eq_map_variablesOf] at distinct
  exact List.inj_on_of_nodup_map distinct isVariable alsoVariable same

end Library

namespace Sample

/-- A function that writes a struct and takes a number, with a given name for the latter. -/
def place (other : String) : Function :=
  { name := "Place"
    returnType := .named "bool"
    params :=
      [⟨"vmid", .named "int", .input, none⟩, ⟨"spot", .named "Spot", .output, none⟩,
        ⟨other, .named "int", .input, none⟩]
    returnMarshal := none }

/-- A library with a struct and a function that writes it. -/
def placing (other : String) : Library :=
  { Library.empty with
    functions := [place other]
    structs := [⟨"Spot", [⟨"x", .named "int", none⟩]⟩] }

/-- The names are distinct where the number is called like neither the temporary nor the result. -/
theorem place_count_distinct :
    (placing "count").Accepted ∧
      ((placing "count").implementation .modern (place "count")).scopeNames =
        ["vmid", "spot", "count", "spotTemp", "result"] ∧
      ((placing "count").implementation .modern (place "count")).scopeNames.Nodup ∧
      ∀ v ∈ (placing "count").variablesOf (place "count"),
        ∀ w ∈ (placing "count").variablesOf (place "count"), v.name = w.name → v = w := by
  have accepted : (placing "count").Accepted := by cbv
  have apart : (placing "count").VariablesApart (place "count") :=
    ⟨by decide, by decide, by decide⟩
  obtain ⟨distinct, denoting⟩ :=
    Library.implementation_scopeNames_distinct_iff (placing "count") .modern (place "count")
  exact ⟨accepted, by decide, distinct.mpr apart, denoting apart⟩

/-- The check accepts a function with a number that is called like the temporary of the struct. -/
theorem place_spotTemp_not_distinct :
    (placing "spotTemp").Accepted ∧ place "spotTemp" ∈ (placing "spotTemp").functions ∧
      ((placing "spotTemp").implementation .modern (place "spotTemp")).scopeNames =
        ["vmid", "spot", "spotTemp", "spotTemp", "result"] ∧
      ¬ ((placing "spotTemp").implementation .modern (place "spotTemp")).scopeNames.Nodup := by
  have accepted : (placing "spotTemp").Accepted := by cbv
  exact ⟨accepted, List.mem_singleton.mpr rfl, by decide, by decide⟩

end Sample

end InteropGlue
