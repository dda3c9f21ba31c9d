import Mathlib.Data.List.Forall2
import InteropGlue.Proofs.CSharp.Places
/-!
# Steps of a run

When each form of expression and statement has an outcome, and which. A run of a body is read off
from these one by one.

## Main Results

* `eval_place`, `eval_call`, … — expressions.
* `exec_bind_iff`, `exec_assign_iff`, … — statements.
* `exec_append` — a block after another.
-/

namespace InteropGlue.CSharp

variable {F : Framework} {M : Machine F} {σ τ : State F} {value : Value F} {e : Expr}

/-! ### Expressions -/

@[simp] theorem isPlace_name (name : String) : (Expr.name name).isPlace = true := rfl

@[simp] theorem isPlace_member (owner : Expr) (name : String) :
    (Expr.member owner name).isPlace = true := rfl

theorem eval_place (isPlace : e.isPlace = true) :
    eval M σ e = (σ.read e).map fun value => (value, σ) := by
  cases e with
  | name | member | element =>
    rw [eval]
    · cases State.read σ _ <;> rfl
    all_goals simp
  | _ => simp [Expr.isPlace] at isPlace

theorem eval_place_iff (isPlace : e.isPlace = true) :
    eval M σ e = some (value, τ) ↔ σ.read e = some value ∧ τ = σ := by
  rw [eval_place isPlace, Option.map_eq_some_iff]
  simp only [Prod.mk.injEq, eq_comm]
  exact ⟨fun ⟨_, found, same, unchanged⟩ => ⟨same ▸ found, unchanged⟩,
    fun ⟨found, unchanged⟩ => ⟨value, found, rfl, unchanged⟩⟩

theorem eval_null : eval M σ .null = some (.null nullType, σ) := by rw [eval]

theorem eval_number {n : Nat} : eval M σ (.number n) = some (.number "int" n, σ) := by rw [eval]

theorem eval_isNull (isPlace : e.isPlace = true) :
    eval M σ (.compare .equal e .null) =
      (σ.read e).map fun value => (.truth value.isNull, σ) := by
  rw [eval, eval_place isPlace]
  cases found : σ.read e with
  | none => rfl
  | some value =>
    simp only [Option.map_some, Option.bind_eq_bind, Option.bind_some, eval_null]
    cases value <;> rfl

theorem eval_isNotNull (isPlace : e.isPlace = true) :
    eval M σ (.compare .notEqual e .null) =
      (σ.read e).map fun value => (.truth (!value.isNull), σ) := by
  rw [eval, eval_place isPlace]
  cases found : σ.read e with
  | none => rfl
  | some value =>
    simp only [Option.map_some, Option.bind_eq_bind, Option.bind_some, eval_null]
    cases value <;> rfl

theorem eval_create_iff {type : String} :
    eval M σ (.create type []) = some (value, τ) ↔ M.construct? type = some value ∧ τ = σ := by
  rw [eval, evalArgs]
  cases M.construct? type with
  | none => simp
  | some made =>
    simp only [Option.bind_eq_bind, Option.bind_some, Option.some.injEq, Prod.mk.injEq]
    exact and_congr_right fun _ => eq_comm

theorem Machine.eq_array_of_createArray? {elementType : String} {size : Value F}
    (created : M.createArray? elementType size = some value) :
    ∃ length start, size.index? = some length ∧
      value = .array elementType .fresh length fun _ => start := by
  simp only [Machine.createArray?, Option.bind_eq_bind, Option.bind_eq_some_iff,
    Option.ite_none_right_eq_some, Option.some.injEq] at created
  obtain ⟨length, isLength, start, -, -, rfl⟩ := created
  exact ⟨length, start, isLength, rfl⟩

theorem eval_createArray_iff {elementType : String} {size : Value F} (isPlace : e.isPlace = true)
    (read : σ.read e = some size) :
    eval M σ (.createArray elementType e) = some (value, τ) ↔
      M.createArray? elementType size = some value ∧ τ = σ := by
  rw [eval, eval_place isPlace, read]
  simp only [Option.map_some, Option.bind_eq_bind, Option.bind_some]
  cases M.createArray? elementType size with
  | none => simp
  | some made =>
    simp only [Option.bind_some, Option.some.injEq, Prod.mk.injEq]
    exact and_congr_right fun _ => eq_comm

/-! ### Arguments and calls -/

/-- The expression of an argument. -/
def Arg.expr : Arg → Expr
  | .pass _ e => e

/-- An expression whose value is taken without changing the state. -/
def Expr.IsStill (M : Machine F) (σ : State F) (e : Expr) : Prop :=
  ∀ value τ, eval M σ e = some (value, τ) → τ = σ

theorem Expr.IsStill.of_place (isPlace : e.isPlace = true) : e.IsStill M σ :=
  fun _ _ evaluated => ((eval_place_iff isPlace).mp evaluated).2

/-- What an argument gives to the callee in a state. -/
def Arg.Gives (M : Machine F) (σ : State F) : Arg → Passing × Option (Value F) → Prop
  | .pass .byValue e, given => ∃ value, eval M σ e = some (value, σ) ∧ given = (.byValue, some value)
  | .pass .ref target, given => ∃ value, σ.read target = some value ∧ given = (.ref, some value)
  | .pass .out _, given => given = (.out, none)

/-- Arguments are evaluated one by one. -/
theorem evalArgs_iff {args : List Arg} {given : Given F}
    (still : ∀ arg ∈ args, arg.expr.IsStill M σ) :
    evalArgs M σ args = some (given, τ) ↔ List.Forall₂ (Arg.Gives M σ) args given ∧ τ = σ := by
  induction args generalizing given τ with
  | nil =>
    rw [evalArgs, List.forall₂_nil_left_iff, Option.some.injEq, Prod.mk.injEq]
    tauto
  | cons arg rest ih =>
    have later : ∀ {given τ}, evalArgs M σ rest = some (given, τ) ↔
        List.Forall₂ (Arg.Gives M σ) rest given ∧ τ = σ :=
      ih fun other member => still other (List.mem_cons_of_mem _ member)
    obtain ⟨passing, e⟩ := arg
    cases passing with
    | byValue =>
      rw [evalArgs]
      simp only [Option.bind_eq_bind, Option.bind_eq_some_iff, Prod.exists, Option.some.injEq,
        Prod.mk.injEq]
      constructor
      · rintro ⟨value, middle, evaluated, restGiven, _, others, rfl, rfl⟩
        obtain rfl := still _ List.mem_cons_self value middle evaluated
        obtain ⟨allGiven, rfl⟩ := later.mp others
        exact ⟨.cons ⟨value, evaluated, rfl⟩ allGiven, rfl⟩
      · rintro ⟨allGiven, rfl⟩
        cases allGiven with
        | cons first others =>
          obtain ⟨value, evaluated, rfl⟩ := first
          exact ⟨value, _, evaluated, _, _, later.mpr ⟨others, rfl⟩, rfl, rfl⟩
    | ref =>
      rw [evalArgs]
      simp only [Option.bind_eq_bind, Option.bind_eq_some_iff, Prod.exists, Option.some.injEq,
        Prod.mk.injEq]
      constructor
      · rintro ⟨value, found, restGiven, _, others, rfl, rfl⟩
        obtain ⟨allGiven, rfl⟩ := later.mp others
        exact ⟨.cons ⟨value, found, rfl⟩ allGiven, rfl⟩
      · rintro ⟨allGiven, rfl⟩
        cases allGiven with
        | cons first others =>
          obtain ⟨value, found, rfl⟩ := first
          exact ⟨value, found, _, _, later.mpr ⟨others, rfl⟩, rfl, rfl⟩
    | out =>
      rw [evalArgs]
      simp only [Option.bind_eq_bind, Option.bind_eq_some_iff, Prod.exists, Option.some.injEq,
        Prod.mk.injEq]
      constructor
      · rintro ⟨restGiven, _, others, rfl, rfl⟩
        obtain ⟨allGiven, rfl⟩ := later.mp others
        exact ⟨.cons rfl allGiven, rfl⟩
      · rintro ⟨allGiven, rfl⟩
        cases allGiven with
        | cons first others =>
          obtain rfl := first
          exact ⟨_, _, later.mpr ⟨others, rfl⟩, rfl, rfl⟩

theorem eval_call_iff {name : String} {args : List Arg} :
    eval M σ (.call (.name name) args) = some (value, τ) ↔
      ∃ given middle finals, evalArgs M σ args = some (given, middle) ∧
        M.invoke? name given = some (finals, value) ∧ middle.passBack args finals = some τ := by
  rw [eval]
  simp only [Option.bind_eq_bind, Option.bind_eq_some_iff, Prod.exists, Option.some.injEq,
    Prod.mk.injEq]
  constructor
  · rintro ⟨given, middle, evaluated, finals, _, invoked, _, passed, rfl, rfl⟩
    exact ⟨given, middle, finals, evaluated, invoked, passed⟩
  · rintro ⟨given, middle, finals, evaluated, invoked, passed⟩
    exact ⟨given, middle, evaluated, finals, value, invoked, τ, passed, rfl, rfl⟩

/-- An argument by value that the callee left as it was changes nothing. -/
theorem passBack_value {root : String} {indices : String → Prop} {args : List Arg}
    {finals : List (Value F)} (part : PlaceOf root indices e) (found : σ.read e = some value) :
    σ.passBack (.value e :: args) (value :: finals) = σ.passBack args finals := by
  rw [Arg.value, State.passBack]
  by_cases shared : value.isShared = true
  · have stored : σ.store e value = some σ := by
      refine part.store_read found ?_
      rintro type n rfl
      simp [Value.isShared] at shared
    simp [shared, part.isPlace, stored]
  · simp [shared]

/-! ### Statements -/

variable {ending : Ending F} {rest : Block} {name : String} {target condition : Expr}

theorem exec_done_iff : exec M σ .done = some (ending, τ) ↔ ending = .next ∧ τ = σ := by
  rw [exec, Option.some.injEq, Prod.mk.injEq]
  exact and_congr eq_comm eq_comm

theorem exec_declare_iff {type : String} {result : Ending F × State F} :
    exec M σ (.step (.declare type name) rest) = some result ↔
      σ.locals name = .absent ∧ exec M (σ.set name .unassigned) rest = some result := by
  rw [exec]
  simp only [Option.bind_eq_bind, Option.bind_eq_some_iff, State.declare?_eq_some_iff]
  constructor
  · rintro ⟨_, ⟨absent, rfl⟩, run⟩
    exact ⟨absent, run⟩
  · rintro ⟨absent, run⟩
    exact ⟨_, ⟨absent, rfl⟩, run⟩

theorem exec_bind_iff {result : Ending F × State F} :
    exec M σ (.step (.bind name e) rest) = some result ↔
      ∃ value middle, eval M σ e = some (value, middle) ∧ middle.locals name = .absent ∧
        exec M (middle.set name (.holds value)) rest = some result := by
  rw [exec]
  simp only [Option.bind_eq_bind, Option.bind_eq_some_iff, Prod.exists,
    State.declare?_eq_some_iff]
  constructor
  · rintro ⟨value, middle, evaluated, _, ⟨absent, rfl⟩, run⟩
    exact ⟨value, middle, evaluated, absent, run⟩
  · rintro ⟨value, middle, evaluated, absent, run⟩
    exact ⟨value, middle, evaluated, _, ⟨absent, rfl⟩, run⟩

theorem exec_assign_iff {result : Ending F × State F} :
    exec M σ (.step (.assign target e) rest) = some result ↔
      ∃ value middle after, eval M σ e = some (value, middle) ∧
        middle.assign target value = some after ∧ exec M after rest = some result := by
  rw [exec]
  simp only [Option.bind_eq_bind, Option.bind_eq_some_iff, Prod.exists]
  tauto

theorem exec_evaluate_iff {result : Ending F × State F} :
    exec M σ (.step (.evaluate e) rest) = some result ↔
      ∃ value middle, eval M σ e = some (value, middle) ∧ exec M middle rest = some result := by
  rw [exec]
  simp only [Option.bind_eq_bind, Option.bind_eq_some_iff, Prod.exists]

theorem exec_leave_iff :
    exec M σ (.step (.leave (some e)) rest) = some (ending, τ) ↔
      ∃ value, eval M σ e = some (value, τ) ∧ ending = .left (some value) := by
  rw [exec]
  simp only [Option.bind_eq_bind, Option.bind_eq_some_iff, Prod.exists, Option.some.injEq,
    Prod.mk.injEq]
  constructor
  · rintro ⟨value, _, evaluated, rfl, rfl⟩
    exact ⟨value, evaluated, rfl⟩
  · rintro ⟨value, evaluated, rfl⟩
    exact ⟨value, τ, evaluated, rfl, rfl⟩

theorem exec_guarded {body : Block} {holds : Bool}
    (evaluated : eval M σ condition = some (.truth holds, σ)) :
    exec M σ (.guarded condition body rest) =
      if holds then
        (exec M σ body).bind fun run =>
          match run.1 with
          | .next => exec M (run.2.leaving σ) rest
          | .left result => some (.left result, run.2)
      else exec M σ rest := by
  rw [exec, evaluated]
  cases holds <;> rfl

theorem exec_counted {index : String} {bound : Expr} {body : Block}
    (absent : σ.locals index = .absent) :
    exec M σ (.counted index bound body rest) =
      (loop M (σ.set index (.holds (.number "int" 0))) index bound body).bind fun run =>
        match run.1 with
        | .next => exec M (run.2.leaving σ) rest
        | .left result => some (.left result, run.2) := by
  rw [exec, State.declare?_eq_some_iff.mpr ⟨absent, rfl⟩]
  rfl

/-- A loop whose index has not reached the bound runs its body once and goes on. -/
theorem loop_turn {index : String} {bound : Expr} {body : Block}
    (less : eval M σ (.compare .less (.name index) bound) = some (.truth true, σ)) :
    loop M σ index bound body =
      (exec M σ body).bind fun run =>
        match run.1 with
        | .next => do
          let inner := run.2.leaving σ
          let position ← (← inner.read (.name index)).index?
          let next ← inner.store (.name index) (.number "int" (position + 1))
          loop M next index bound body
        | .left result => some (.left result, run.2) := by
  rw [loop, less]
  rfl

/-- A loop whose index has reached the bound ends. -/
theorem loop_end {index : String} {bound : Expr} {body : Block}
    (notLess : eval M σ (.compare .less (.name index) bound) = some (.truth false, σ)) :
    loop M σ index bound body = some (.next, σ) := by
  rw [loop, notLess]
  rfl

/-- A block after another: it runs if the first one does not leave the method. -/
theorem exec_append (first second : Block) :
    exec M σ (first ++ second) = (exec M σ first).bind fun run =>
      match run.1 with
      | .next => exec M run.2 second
      | .left result => some (.left result, run.2) := by
  change exec M σ (Block.append first second) = _
  induction first generalizing σ with
  | done =>
    rw [Block.append, exec]
    rfl
  | step s rest ih =>
    rw [Block.append]
    cases s with
    | leave value =>
      cases value with
      | none =>
        rw [exec, exec]
        rfl
      | some value =>
        rw [exec, exec]
        cases eval M σ value <;> rfl
    | declare | bind | assign | evaluate =>
      rw [exec, exec]
      simp only [Option.bind_eq_bind, ih, Option.bind_assoc]
    | attach | detach | increment | decrement =>
      rw [exec, exec]
      · rfl
      all_goals simp
  | guarded condition body rest _ ih =>
    rw [Block.append, exec, exec]
    simp only [Option.bind_eq_bind, Option.bind_assoc]
    congr 1
    funext evaluated
    congr 1
    funext holds
    split
    · simp only [Option.bind_assoc]
      congr 1
      funext run
      rcases run with ⟨ending, inner⟩
      cases ending with
      | next => exact ih
      | left result => rfl
    · exact ih
  | counted index bound body rest _ ih =>
    rw [Block.append, exec, exec]
    simp only [Option.bind_eq_bind, Option.bind_assoc]
    congr 1
    funext start
    congr 1
    funext run
    rcases run with ⟨ending, inner⟩
    cases ending with
    | next => exact ih
    | left result => rfl

end InteropGlue.CSharp
