import InteropGlue.CSharp.Syntax
/-!
# Definite assignment

The language refuses a body that may read a variable before it has a value. The analysis goes through
a body statement by statement with the variables that have a value for sure. What a call takes by
value or by reference is read before the call; what it takes with `out` is not read, and has a value
after it.

## Main Definitions

* `Expr.reads`, `Expr.outs` — the variables that an expression reads, and that it gives a value.
* `Step.reads`, `Step.assigns` — the same for a statement.
* `Block.Definite` — no variable is read too early, and what has to be assigned is.
* `MethodDefinite` — a method that the analysis accepts.

## Main Results

* `Block.Definite.mono` — more variables with a value do no harm.
* `Block.definite_append_iff` — statements one after the other.
* `Block.definite_each` — a phase that treats each of a list of items.
* `Block.Definite.reads_subset` — what a statement may read.

## Design Notes

A callee is looked up in the classes and not among the variables, as in the typing of bodies. An
`out` argument counts in the call that a statement evaluates last, and nowhere deeper.
-/

namespace InteropGlue.CSharp

/-! ### Expressions -/

mutual

/-- The variables that an expression reads. -/
def Expr.reads : Expr → List String
  | .name name => [name]
  | .member owner _ => owner.reads
  | .element array index => array.reads ++ index.reads
  | .null => []
  | .number _ => []
  | .compare _ left right => left.reads ++ right.reads
  | .choose condition yes no => condition.reads ++ yes.reads ++ no.reads
  | .cast _ value => value.reads
  | .call _ args => readsOf args
  | .create _ args => readsOf args
  | .createArray _ size => size.reads

/-- The variables that an argument reads: a variable passed with `out` is not one of them. -/
def Arg.reads : Arg → List String
  | .pass .out (.name _) => []
  | .pass _ value => value.reads

/-- The variables that arguments read. -/
def readsOf : List Arg → List String
  | [] => []
  | arg :: rest => arg.reads ++ readsOf rest

end

/-- The variable that an argument gives a value. -/
def Arg.out? : Arg → Option String
  | .pass .out (.name name) => some name
  | _ => none

/-- The variables that the outermost call of an expression gives a value. -/
def Expr.outs : Expr → List String
  | .call _ args => args.filterMap Arg.out?
  | _ => []

theorem readsOf_eq (args : List Arg) : readsOf args = args.flatMap Arg.reads := by
  induction args with
  | nil => simp [readsOf]
  | cons arg rest ih => simp [readsOf, ih]

@[simp] theorem Expr.reads_name (name : String) : (Expr.name name).reads = [name] := by
  simp [Expr.reads]

@[simp] theorem Expr.reads_call (callee : Expr) (args : List Arg) :
    (Expr.call callee args).reads = args.flatMap Arg.reads := by
  simp [Expr.reads, readsOf_eq]

@[simp] theorem Expr.reads_create (type : String) : (Expr.create type []).reads = [] := by
  simp [Expr.reads, readsOf]

@[simp] theorem Arg.reads_value (value : Expr) : (Arg.value value).reads = value.reads := by
  simp [Arg.value, Arg.reads]

@[simp] theorem Expr.reads_callOwn (method : String) (args : List Expr) :
    (Expr.callOwn method args).reads = args.flatMap Expr.reads := by
  simp [Expr.callOwn, List.flatMap_map]

/-! ### Statements -/

namespace Step

/-- The variables that a statement reads. -/
def reads : Step → List String
  | declare _ _ => []
  | bind _ value => value.reads
  | assign (.name _) value => value.reads
  | assign target value => target.reads ++ value.reads
  | attach target value => target.reads ++ value.reads
  | detach target value => target.reads ++ value.reads
  | increment target => target.reads
  | decrement target => target.reads
  | evaluate value => value.reads
  | leave value => value.elim [] Expr.reads

/-- The variables that a statement gives a value. -/
def assigns : Step → List String
  | bind name value => name :: value.outs
  | assign (.name name) value => name :: value.outs
  | assign _ value => value.outs
  | evaluate value => value.outs
  | _ => []

/-- The statement ends the body. -/
def leaves : Step → Bool
  | leave _ => true
  | _ => false

end Step

/-! ### Bodies -/

namespace Block

/-- No variable is read before it has a value. Where the method is left, `required` have one, and
where control reaches the end of the block, `final`. -/
def Definite (required : List String) : List String → List String → Block → Prop
  | final, assigned, done => final ⊆ assigned
  | final, assigned, step first rest =>
    first.reads ⊆ assigned ∧
      if first.leaves then required ⊆ assigned
      else Definite required final (first.assigns ++ assigned) rest
  | final, assigned, guarded condition body rest =>
    condition.reads ⊆ assigned ∧ Definite required [] assigned body ∧
      Definite required final assigned rest
  | final, assigned, counted index bound body rest =>
    bound.reads ⊆ assigned ∧ Definite required [] (index :: assigned) body ∧
      Definite required final assigned rest

/-- Whether a block passes the analysis can be computed. -/
def decideDefinite (required : List String) :
    (final assigned : List String) → (block : Block) →
      Decidable (Definite required final assigned block)
  | final, assigned, done => inferInstanceAs (Decidable (final ⊆ assigned))
  | final, assigned, step first rest =>
    have := decideDefinite required final (first.assigns ++ assigned) rest
    inferInstanceAs (Decidable (first.reads ⊆ assigned ∧
      if first.leaves then required ⊆ assigned
      else Definite required final (first.assigns ++ assigned) rest))
  | final, assigned, guarded _ body rest =>
    have := decideDefinite required [] assigned body
    have := decideDefinite required final assigned rest
    inferInstanceAs (Decidable (_ ∧ _ ∧ _))
  | final, assigned, counted index _ body rest =>
    have := decideDefinite required [] (index :: assigned) body
    have := decideDefinite required final assigned rest
    inferInstanceAs (Decidable (_ ∧ _ ∧ _))

instance {required final assigned : List String} {block : Block} :
    Decidable (block.Definite required final assigned) :=
  decideDefinite required final assigned block

variable {required final assigned larger : List String}

theorem Definite.mono {block : Block} (subset : assigned ⊆ larger)
    (definite : block.Definite required final assigned) :
    block.Definite required final larger := by
  induction block generalizing final assigned larger with
  | done => exact List.Subset.trans definite subset
  | step first rest ih =>
    obtain ⟨reads, follows⟩ := definite
    refine ⟨List.Subset.trans reads subset, ?_⟩
    by_cases leaves : first.leaves = true
    · rw [if_pos leaves] at follows ⊢
      exact List.Subset.trans follows subset
    · rw [if_neg leaves] at follows ⊢
      exact ih (List.append_subset.mpr ⟨List.subset_append_left _ _,
        List.subset_append_of_subset_right _ subset⟩) follows
  | guarded condition body rest bodyIh restIh =>
    obtain ⟨reads, inBody, follows⟩ := definite
    exact ⟨List.Subset.trans reads subset, bodyIh subset inBody, restIh subset follows⟩
  | counted index bound body rest bodyIh restIh =>
    obtain ⟨reads, inBody, follows⟩ := definite
    exact ⟨List.Subset.trans reads subset, bodyIh (List.cons_subset_cons index subset) inBody,
      restIh subset follows⟩

/-! ### Statements without a body, in order -/

theorem definite_nil : (ofSteps []).Definite required final assigned ↔ final ⊆ assigned := Iff.rfl

theorem definite_cons {first : Step} {rest : List Step} (stays : first.leaves = false) :
    (ofSteps (first :: rest)).Definite required final assigned ↔
      first.reads ⊆ assigned ∧
        (ofSteps rest).Definite required final (first.assigns ++ assigned) := by
  rw [ofSteps, List.foldr_cons, Definite, stays, if_neg (by simp)]
  rfl

theorem definite_leave {value : Option Expr} {rest : List Step} :
    (ofSteps (.leave value :: rest)).Definite required final assigned ↔
      value.elim [] Expr.reads ⊆ assigned ∧ required ⊆ assigned := by
  rw [ofSteps, List.foldr_cons, Definite, Step.leaves, if_pos rfl, Step.reads]

/-- Statements one after the other: the second ones may read what the first ones assign. -/
theorem definite_append_iff {first rest : List Step} (stay : ∀ s ∈ first, s.leaves = false) :
    (ofSteps (first ++ rest)).Definite required final assigned ↔
      (ofSteps first).Definite required [] assigned ∧
        (ofSteps rest).Definite required final (first.flatMap Step.assigns ++ assigned) := by
  induction first generalizing assigned with
  | nil => simp [definite_nil]
  | cons s first ih =>
    obtain ⟨stays, stay⟩ := List.forall_mem_cons.mp stay
    -- The two orders in which the assigned variables are listed have the same members.
    have order : (ofSteps rest).Definite required final
        (first.flatMap Step.assigns ++ (s.assigns ++ assigned)) ↔
          (ofSteps rest).Definite required final
            ((s :: first).flatMap Step.assigns ++ assigned) := by
      constructor <;>
      · refine Definite.mono fun name member => ?_
        grind
    rw [List.cons_append, definite_cons stays, definite_cons stays, ih stay, order, and_assoc]

/-- A phase that treats each of a list of items, none of them with the help of another. -/
theorem definite_each {α : Type} {steps : α → List Step} {items : List α}
    (stay : ∀ item ∈ items, ∀ s ∈ steps item, s.leaves = false)
    (each : ∀ item ∈ items, (ofSteps (steps item)).Definite required [] assigned) :
    (ofSteps (items.flatMap steps)).Definite required [] assigned := by
  induction items with
  | nil => simp [definite_nil]
  | cons item items ih =>
    obtain ⟨stays, stay⟩ := List.forall_mem_cons.mp stay
    obtain ⟨first, each⟩ := List.forall_mem_cons.mp each
    rw [List.flatMap_cons, definite_append_iff stays]
    exact ⟨first, (ih stay each).mono (List.subset_append_right _ _)⟩

/-- A statement reads nothing but what has a value at some point. -/
theorem Definite.reads_subset {steps : List Step} (stay : ∀ s ∈ steps, s.leaves = false)
    (definite : (ofSteps steps).Definite required final assigned) {s : Step} (member : s ∈ steps) :
    s.reads ⊆ steps.flatMap Step.assigns ++ assigned := by
  obtain ⟨before, after, rfl⟩ := List.append_of_mem member
  have stays : ∀ t ∈ before, t.leaves = false :=
    fun t isBefore => stay t (List.mem_append_left _ isBefore)
  -- What stands before the statement has been assigned when it reads.
  obtain ⟨reads, -⟩ := (definite_cons (stay s member)).mp
    ((definite_append_iff stays).mp definite).2
  rw [List.flatMap_append]
  intro name read
  rcases List.mem_append.mp (reads read) with early | given
  · exact List.mem_append_left _ (List.mem_append_left _ early)
  · exact List.mem_append_right _ given

end Block

/-! ### Methods -/

namespace Signature

/-- The parameters that have a value on entry. -/
def given (signature : Signature) : List String :=
  (signature.params.filter (·.passing != .out)).map (·.name)

/-- The parameters that have to have a value on return. -/
def owed (signature : Signature) : List String :=
  (signature.params.filter (·.passing == .out)).map (·.name)

end Signature

/-- The body of a method passes the analysis: every parameter but those passed with `out` has a value
on entry, and those have one on return. -/
def MethodDefinite : Member → Prop
  | .method _ signature body => body.Definite signature.owed signature.owed signature.given
  | _ => True

instance : (member : Member) → Decidable (MethodDefinite member)
  | .method _ signature body =>
    inferInstanceAs (Decidable (body.Definite signature.owed signature.owed signature.given))
  | .field .. | .enumValue .. | .abstractMethod .. | .constructor .. | .property .. | .slot ..
  | .abstractEvent .. | .event .. | .delegate .. => inferInstanceAs (Decidable True)

end InteropGlue.CSharp
