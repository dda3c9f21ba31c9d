import InteropGlue.Proofs.CSharp.Methods
/-!
# Many variables

A body with parameters treats them one after the other. If the treatment of one sets one variable,
and does not matter to the treatment of the others, all of these variables are set.

## Main Definitions

* `State.setEach` — the state with another meaning of a name for each member of a list.

## Main Results

* `exec_each_iff` — statements for each member of a list.
* `State.passBack_each` — what a callee leaves in each of its arguments.
* `eval_entry_iff` — a call of an entry point.
-/

namespace InteropGlue.CSharp

variable {F : Framework} {M : Machine F} {σ τ : State F} {α : Type}

/-- Values for the members of a list without duplicates are the values of a function. -/
theorem forall₂_iff_exists_map {β : Type} [Nonempty β] {R : α → β → Prop} {xs : List α}
    {ys : List β} (distinct : xs.Nodup) :
    List.Forall₂ R xs ys ↔ ∃ g, ys = xs.map g ∧ ∀ x ∈ xs, R x (g x) := by
  classical
  constructor
  · intro related
    induction related with
    | nil =>
      obtain ⟨y⟩ := ‹Nonempty β›
      exact ⟨fun _ => y, rfl, by simp⟩
    | @cons x y xs ys first _ ih =>
      rw [List.nodup_cons] at distinct
      obtain ⟨g, rfl, others⟩ := ih distinct.2
      have apart : ∀ other ∈ xs, Function.update g x y other = g other := by
        intro other member
        have different : other ≠ x := fun same => distinct.1 (same ▸ member)
        exact Function.update_of_ne different _ _
      refine ⟨Function.update g x y, ?_, ?_⟩
      · rw [List.map_cons, Function.update_self, List.map_congr_left apart]
      · rw [List.forall_mem_cons, Function.update_self]
        exact ⟨first, fun other member => by rw [apart other member]; exact others other member⟩
  · rintro ⟨g, rfl, related⟩
    rw [List.forall₂_map_right_iff, List.forall₂_same]
    exact related

namespace State

/-- The state with another meaning of a name for each member of a list. -/
def setEach (σ : State F) (xs : List α) (name : α → String) (slot : α → Slot F) : State F :=
  xs.foldl (fun σ x => σ.set (name x) (slot x)) σ

variable {xs : List α} {name : α → String} {slot : α → Slot F} {x : α}

@[simp] theorem setEach_nil : σ.setEach [] name slot = σ := rfl

@[simp] theorem setEach_cons :
    σ.setEach (x :: xs) name slot = (σ.set (name x) (slot x)).setEach xs name slot := rfl

@[simp] theorem setEach_fixed : (σ.setEach xs name slot).fixed = σ.fixed := by
  induction xs generalizing σ with
  | nil => rfl
  | cons x xs ih => rw [setEach_cons, ih, set_fixed]

@[simp] theorem setEach_calls : (σ.setEach xs name slot).calls = σ.calls := by
  induction xs generalizing σ with
  | nil => rfl
  | cons x xs ih => rw [setEach_cons, ih, set_calls]

theorem locals_setEach_of_notMem {other : String} (apart : other ∉ xs.map name) :
    (σ.setEach xs name slot).locals other = σ.locals other := by
  induction xs generalizing σ with
  | nil => rfl
  | cons x xs ih =>
    rw [List.map_cons, List.mem_cons, not_or] at apart
    rw [setEach_cons, ih apart.2, locals_set_of_ne apart.1]

theorem locals_setEach_of_mem (distinct : (xs.map name).Nodup) (member : x ∈ xs) :
    (σ.setEach xs name slot).locals (name x) = slot x := by
  induction xs generalizing σ with
  | nil => simp at member
  | cons y xs ih =>
    rw [List.map_cons, List.nodup_cons] at distinct
    rw [setEach_cons]
    rcases List.mem_cons.mp member with rfl | later
    · rw [locals_setEach_of_notMem distinct.1, locals_set_self]
    · exact ih distinct.2 later

/-- Names that are set to the same meaning by two functions. -/
theorem setEach_congr {other : α → Slot F} (same : ∀ x ∈ xs, slot x = other x) :
    σ.setEach xs name slot = σ.setEach xs name other := by
  induction xs generalizing σ with
  | nil => rfl
  | cons x xs ih =>
    rw [setEach_cons, setEach_cons, same x List.mem_cons_self,
      ih fun y member => same y (List.mem_cons_of_mem _ member)]

end State

/-! ### Sequences -/

section Each

variable {xs : List α} {name : α → String} (before : State F → α → Prop)

/-- Statements for each member of a list, each of which sets one variable, set all of them. -/
theorem exec_each_iff {steps : α → List Step} {gives : α → Slot F → Prop} {rest : List Step}
    {run : Ending F × State F} (distinct : xs.Nodup)
    (step : ∀ x ∈ xs, ∀ σ, before σ x → ∀ rest,
      (exec M σ (.ofSteps (steps x ++ rest)) = some run ↔
        ∃ slot, gives x slot ∧ exec M (σ.set (name x) slot) (.ofSteps rest) = some run))
    (keeps : ∀ x ∈ xs, ∀ y ∈ xs, y ≠ x → ∀ σ slot, before σ y → before (σ.set (name x) slot) y)
    (start : ∀ x ∈ xs, before σ x) :
    exec M σ (.ofSteps (xs.flatMap steps ++ rest)) = some run ↔
      ∃ slot : α → Slot F, (∀ x ∈ xs, gives x (slot x)) ∧
        exec M (σ.setEach xs name slot) (.ofSteps rest) = some run := by
  classical
  induction xs generalizing σ with
  | nil =>
    simp only [List.flatMap_nil, List.nil_append, State.setEach_nil, List.not_mem_nil,
      false_imp_iff, implies_true, true_and]
    exact ⟨fun ran => ⟨fun _ => .absent, ran⟩, fun ⟨_, ran⟩ => ran⟩
  | cons x xs ih =>
    rw [List.nodup_cons] at distinct
    have apart : ∀ y ∈ xs, y ≠ x := fun y member same => distinct.1 (same ▸ member)
    have later : ∀ {slot}, _ ↔ _ := fun {slot} => @ih (σ.set (name x) slot) distinct.2
      (fun y member => step y (List.mem_cons_of_mem _ member))
      (fun y member z isOther => keeps y (List.mem_cons_of_mem _ member) z
        (List.mem_cons_of_mem _ isOther))
      (fun y member => keeps x List.mem_cons_self y (List.mem_cons_of_mem _ member)
        (apart y member) σ slot (start y (List.mem_cons_of_mem _ member)))
    rw [List.flatMap_cons, List.append_assoc, step x List.mem_cons_self σ
      (start x List.mem_cons_self)]
    simp only [later, List.forall_mem_cons, State.setEach_cons]
    constructor
    · rintro ⟨first, isFirst, slot, others, ran⟩
      refine ⟨Function.update slot x first, ⟨by rwa [Function.update_self], ?_⟩, ?_⟩
      · intro y member
        rw [Function.update_of_ne (apart y member)]
        exact others y member
      · rw [Function.update_self, State.setEach_congr fun y member =>
          Function.update_of_ne (apart y member) _ _]
        exact ran
    · rintro ⟨slot, ⟨isFirst, others⟩, ran⟩
      exact ⟨slot x, isFirst, slot, others, ran⟩

/-- What a callee leaves in its arguments, each of which it sets in one variable. -/
theorem State.passBack_each {arg : α → Arg} {final : α → Value F} {slot : α → Slot F}
    (distinct : xs.Nodup)
    (step : ∀ x ∈ xs, ∀ σ, before σ x → ∀ args finals,
      σ.passBack (arg x :: args) (final x :: finals) =
        (σ.set (name x) (slot x)).passBack args finals)
    (keeps : ∀ x ∈ xs, ∀ y ∈ xs, y ≠ x → ∀ σ slot, before σ y → before (σ.set (name x) slot) y)
    (start : ∀ x ∈ xs, before σ x) :
    σ.passBack (xs.map arg) (xs.map final) = some (σ.setEach xs name slot) := by
  induction xs generalizing σ with
  | nil => rfl
  | cons x xs ih =>
    rw [List.nodup_cons] at distinct
    rw [List.map_cons, List.map_cons, step x List.mem_cons_self σ (start x List.mem_cons_self),
      State.setEach_cons]
    refine ih distinct.2 (fun y member => step y (List.mem_cons_of_mem _ member))
      (fun y member z isOther => keeps y (List.mem_cons_of_mem _ member) z
        (List.mem_cons_of_mem _ isOther)) ?_
    intro y member
    have apart : y ≠ x := fun same => distinct.1 (same ▸ member)
    exact keeps x List.mem_cons_self y (List.mem_cons_of_mem _ member) apart σ (slot x)
      (start y (List.mem_cons_of_mem _ member))

end Each

/-! ### Entry points -/

/-- What a callee leaves as it was given is unchanged for the caller. -/
@[simp] theorem Value.afterCall_self {given : Value F} : given.afterCall given = given := by
  simp [afterCall]

/-- A variable passed by reference holds what the callee left there. -/
theorem State.passBack_reference {passing : Passing} {name : String} {args : List Arg}
    {final : Value F} {finals : List (Value F)} (byReference : passing ≠ .byValue)
    (present : σ.locals name ≠ .absent) :
    σ.passBack (.pass passing (.name name) :: args) (final :: finals) =
      (σ.set name (.holds final)).passBack args finals := by
  rw [passBack, if_neg fun given => byReference given.1, store_name present]
  rfl

/-- A variable passed by value holds what the callee left in its instance. -/
theorem State.passBack_byValue {name : String} {args : List Arg} {given final : Value F}
    {finals : List (Value F)} (holds : σ.locals name = .holds given) :
    σ.passBack (.pass .byValue (.name name) :: args) (final :: finals) =
      (σ.set name (.holds (given.afterCall final))).passBack args finals := by
  have stored : σ.store (.name name) final = some (σ.set name (.holds final)) :=
    store_name (by simp [holds])
  rw [passBack, Value.afterCall]
  cases shared : final.isShared with
  | true => simp [stored]
  | false => simp [set_self holds]

/-- A call of an entry point. -/
theorem eval_entry_iff {name : String} {args : List Arg} {value : Value F} {entryPoint : Delegate}
    (found : M.entryPoint? name = some entryPoint) :
    eval M σ (.call (.member (.name "EntryPoints") name) args) = some (value, τ) ↔
      ∃ given middle after, evalArgs M σ args = some (given, middle) ∧
        given.map Prod.fst = entryPoint.signature.params.map (·.passing) ∧
        middle.passBack args (List.zipWith (M.native name (given.map Prod.snd)).final
          entryPoint.signature.params (given.map Prod.snd)) = some after ∧
        value = (if entryPoint.signature.returns = "void" then .nothing
          else (M.native name (given.map Prod.snd)).result) ∧
        τ = { after with calls := after.calls ++ [⟨name, given.map Prod.snd⟩] } := by
  rw [eval]
  simp only [Option.bind_eq_bind, Option.bind_eq_some_iff, Prod.exists, found, Option.bind_some,
    Option.ite_none_right_eq_some, Option.some.injEq, Prod.mk.injEq]
  constructor
  · rintro ⟨given, middle, evaluated, passings, after, passed, rfl, rfl⟩
    exact ⟨given, middle, after, evaluated, passings, passed, rfl, rfl⟩
  · rintro ⟨given, middle, after, evaluated, passings, passed, rfl, rfl⟩
    exact ⟨given, middle, evaluated, passings, after, passed, rfl, rfl⟩

end InteropGlue.CSharp
