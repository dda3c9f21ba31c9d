import InteropGlue.CSharp.Syntax
/-!
# Typing of method bodies

When a body without nested blocks is well typed. Types are compared by their spelling, and a value
has one type: there are no conversions between types.

A callee is looked up in the class, and every other name among the variables in scope. A variable is
typed by a declaration of its name; where two variables share a name the judgement takes either.

## Main Definitions

* `Surroundings` — the classes that a body refers to, and the types it may create.
* `HasType`, `Fits` — the type of an expression, and arguments that fit declared parameters.
* `StepTyped`, `BodyTyped` — a statement with the variables after it, and a whole body.
* `MethodTyped` — a method whose body is well typed.

## Main Results

* `HasType.weaken`, `Fits.weaken` — more variables do no harm.
* `BodyTyped.declare_each`, `BodyTyped.run_each` — a phase that declares one variable for each of a
  list of items, and a phase that declares none.
-/

namespace InteropGlue.CSharp

/-- The signature of a method. -/
def Member.signature? : Member → Option Signature
  | .method _ signature _ => some signature
  | _ => none

/-- The signatures of the methods of a type. -/
def TypeDecl.methods (decl : TypeDecl) : List Signature := decl.members.filterMap Member.signature?

/-- Variables in scope, with their types. -/
abbrev Scope := List (String × String)

/-- What a body refers to besides its variables: the class it is in, the conversions among the
methods of that class, the class of entry points, and the records that it may create. -/
structure Surroundings where
  own : TypeDecl
  conversions : List Signature
  entryPoints : TypeDecl
  records : List TypeDecl

/-- The entry points offer a delegate under a name: the class has a property that holds them, there
is a slot of the name, and its type is a delegate declared beside it. -/
def Surroundings.Offers (env : Surroundings) (name : String) (signature : Signature) : Prop :=
  (∃ value, .property env.entryPoints.name "EntryPoints" value ∈ env.own.members) ∧
    .slot signature.name name ∈ env.entryPoints.members ∧
      ∃ attributes, .delegate ⟨attributes, signature⟩ ∈ env.entryPoints.members

mutual

/-- An expression has a type. -/
inductive HasType (env : Surroundings) (scope : Scope) : Expr → String → Prop
  | variable {name type : String} : (name, type) ∈ scope → HasType env scope (.name name) type
  /-- A call of a conversion, which is a method of the same class. -/
  | conversion {args : List Arg} {signature : Signature} : signature ∈ env.conversions →
      signature ∈ env.own.methods → Fits env scope args signature.params →
      HasType env scope (.call (.name signature.name) args) signature.returns
  /-- A call of an entry point. -/
  | entryPoint {name : String} {args : List Arg} {signature : Signature} :
      env.Offers name signature → Fits env scope args signature.params →
      HasType env scope (.call (.member (.name "EntryPoints") name) args) signature.returns
  /-- A new instance of a record, or its default value. -/
  | create {decl : TypeDecl} : decl ∈ env.records →
      HasType env scope (.create decl.name []) decl.name

/-- Arguments fit parameters one by one, in keyword and type. -/
inductive Fits (env : Surroundings) (scope : Scope) : List Arg → List Parameter → Prop
  | nil : Fits env scope [] []
  | cons {passing : Passing} {value : Expr} {args : List Arg} {p : Parameter}
      {params : List Parameter} : passing = p.passing → HasType env scope value p.type →
      Fits env scope args params → Fits env scope (.pass passing value :: args) (p :: params)

end

/-- A statement is well typed, and leaves these variables in scope. -/
inductive StepTyped (env : Surroundings) (scope : Scope) : Step → Scope → Prop
  | declare {type name : String} : StepTyped env scope (.declare type name) ((name, type) :: scope)
  | bind {name type : String} {value : Expr} : HasType env scope value type → type ≠ "void" →
      StepTyped env scope (.bind name value) ((name, type) :: scope)
  | assign {target value : Expr} {type : String} : HasType env scope target type →
      HasType env scope value type → StepTyped env scope (.assign target value) scope
  | evaluate {value : Expr} {type : String} : HasType env scope value type →
      StepTyped env scope (.evaluate value) scope
  /-- A handle object kept alive by the framework. -/
  | keepAlive {value : Expr} {type : String} : HasType env scope value type →
      StepTyped env scope
        (.evaluate (.call (.member (.name "GC") "KeepAlive") [.value value])) scope

/-- A body is well typed and ends as its return type says: with a value of the type, or without any
if the type is `void`. -/
inductive BodyTyped (env : Surroundings) (returns : String) : Scope → List Step → Prop
  | finish {scope : Scope} : returns = "void" → BodyTyped env returns scope []
  | leave {scope : Scope} {value : Expr} : returns ≠ "void" → HasType env scope value returns →
      BodyTyped env returns scope [.leave (some value)]
  | step {scope after : Scope} {first : Step} {rest : List Step} :
      StepTyped env scope first after → BodyTyped env returns after rest →
      BodyTyped env returns scope (first :: rest)

/-- A method is well typed: its body is, with the parameters in scope. -/
inductive MethodTyped (env : Surroundings) : Member → Prop
  | intro {modifiers : String} {signature : Signature} {steps : List Step} :
      BodyTyped env signature.returns (signature.params.map fun p => (p.name, p.type)) steps →
      MethodTyped env (.method modifiers signature (.ofSteps steps))

variable {env : Surroundings} {scope larger : Scope} {returns : String}

/-! ### Variables and single values -/

/-- A name is that of variables of one type. -/
def Scope.Binds (scope : Scope) (name type : String) : Prop :=
  ∀ other, (name, other) ∈ scope ↔ other = type

theorem hasType_name_iff {name type : String} :
    HasType env scope (.name name) type ↔ (name, type) ∈ scope := by
  constructor
  · intro typed
    cases typed with
    | «variable» declared => exact declared
  · exact .variable

theorem fits_single_iff {passing : Passing} {value : Expr} {p : Parameter} :
    Fits env scope [.pass passing value] [p] ↔
      passing = p.passing ∧ HasType env scope value p.type := by
  constructor
  · intro fits
    cases fits with
    | cons keyword typed _ => exact ⟨keyword, typed⟩
  · rintro ⟨keyword, typed⟩
    exact .cons keyword typed .nil

theorem bodyTyped_leave_iff {value : Expr} :
    BodyTyped env returns scope [.leave (some value)] ↔
      returns ≠ "void" ∧ HasType env scope value returns := by
  constructor
  · intro typed
    cases typed with
    | leave notVoid typed => exact ⟨notVoid, typed⟩
    | step first _ => cases first
  · rintro ⟨notVoid, typed⟩
    exact .leave notVoid typed

/-! ### More variables -/

mutual

theorem HasType.weaken {value : Expr} {type : String} (subset : scope ⊆ larger) :
    HasType env scope value type → HasType env larger value type
  | .variable member => .variable (subset member)
  | .conversion listed member args => .conversion listed member (args.weaken subset)
  | .entryPoint offer args => .entryPoint offer (args.weaken subset)
  | .create member => .create member

theorem Fits.weaken {args : List Arg} {params : List Parameter} (subset : scope ⊆ larger) :
    Fits env scope args params → Fits env larger args params
  | .nil => .nil
  | .cons keyword value rest => .cons keyword (value.weaken subset) (rest.weaken subset)

end

theorem Fits.of_forall {α : Type} {arg : α → Arg} {param : α → Parameter} {items : List α}
    (each : ∀ item ∈ items, Fits env scope [arg item] [param item]) :
    Fits env scope (items.map arg) (items.map param) := by
  induction items with
  | nil => exact .nil
  | cons item rest ih =>
    have later := ih fun other member => each other (List.mem_cons_of_mem _ member)
    generalize argument : arg item = first
    have head := each item List.mem_cons_self
    rw [argument] at head
    cases head with
    | cons keyword value _ =>
      rw [List.map_cons, List.map_cons, argument]
      exact .cons keyword value later

/-! ### Phases of a body -/

/-- A phase that declares a variable for each item: what follows may use all of them. -/
theorem BodyTyped.declare_each {α : Type} {step : α → Step} (name type : α → String)
    {items : List α} {rest : List Step}
    (each : ∀ item ∈ items, ∀ later, scope ⊆ later →
      StepTyped env later (step item) ((name item, type item) :: later))
    (follows : ∀ later, scope ⊆ later → (∀ item ∈ items, (name item, type item) ∈ later) →
      BodyTyped env returns later rest) :
    BodyTyped env returns scope (items.map step ++ rest) := by
  induction items generalizing scope with
  | nil => exact follows scope (List.Subset.refl _) (by simp)
  | cons item items ih =>
    refine .step (each item List.mem_cons_self scope (List.Subset.refl _)) (ih ?_ ?_)
    · intro other member later subset
      exact each other (List.mem_cons_of_mem _ member) later
        (List.Subset.trans (List.subset_cons_self _ _) subset)
    · intro later subset declared
      refine follows later (List.Subset.trans (List.subset_cons_self _ _) subset) ?_
      intro other member
      rcases List.mem_cons.mp member with rfl | member
      · exact subset List.mem_cons_self
      · exact declared other member

/-- A phase that declares no variables. -/
theorem BodyTyped.run_each {steps rest : List Step}
    (each : ∀ step ∈ steps, StepTyped env scope step scope)
    (follows : BodyTyped env returns scope rest) :
    BodyTyped env returns scope (steps ++ rest) := by
  induction steps with
  | nil => exact follows
  | cons step steps ih =>
    exact .step (each step List.mem_cons_self)
      (ih fun other member => each other (List.mem_cons_of_mem _ member))

end InteropGlue.CSharp
