import Mathlib.Data.List.Infix
import InteropGlue.Proofs.CSharp.Value
/-!
# Delegates with several handlers

A delegate that is not `null` is an instance with the handlers that it calls, in order. It never
changes: combining two delegates and removing one from another give new instances, except where
there is nothing to combine or to remove.

## Main Definitions

* `withoutLast?` — a list without the last run of elements that is another list.
* `Multicast` — a delegate instance.
* `Multicast.combined`, `Multicast.removed` — what `+=` and `-=` give.

## Main Results

* `Multicast.handlersOf_combined` — the handlers of a combination.
* `Multicast.removed_eq_self_iff` — a removal gives the same instance exactly if there is nothing to
  remove.
* `Multicast.handlersOf_removed_perm` — what a removal removes.

## Design Notes

`null` is `none`. The identity tells instances with the same handlers apart; two delegates are the
same reference if they are equal here. A removal that leaves one handler gives that handler's own
delegate, which is another instance than the one it is removed from, as a new one is.
-/

namespace InteropGlue.CSharp

/-! ### Runs of elements in a list -/

section Runs

variable {α : Type} [DecidableEq α] {part whole less : List α}

/-- A list without the last run of elements that is `part`, if there is one. -/
def withoutLast? (part : List α) : List α → Option (List α)
  | [] => none
  | x :: rest =>
    match withoutLast? part rest with
    | some less => some (x :: less)
    | none => if part <+: x :: rest then some ((x :: rest).drop part.length) else none

theorem withoutLast?_eq_none_iff (nonempty : part ≠ []) :
    withoutLast? part whole = none ↔ ¬ part <:+: whole := by
  induction whole with
  | nil => simp [withoutLast?, nonempty]
  | cons x rest ih =>
    rw [List.infix_cons_iff, withoutLast?]
    cases found : withoutLast? part rest with
    | some less =>
      have inRest : part <:+: rest := by simpa [found] using ih
      simp [inRest]
    | none =>
      have notInRest : ¬ part <:+: rest := ih.mp found
      simp [notInRest]

/-- The run that is taken out is the last one. -/
theorem withoutLast?_eq_some (removed : withoutLast? part whole = some less) :
    ∃ before after, whole = before ++ part ++ after ∧ less = before ++ after ∧
      ∀ earlier later, whole = earlier ++ part ++ later → part ≠ [] →
        earlier.length ≤ before.length := by
  induction whole generalizing less with
  | nil => simp [withoutLast?] at removed
  | cons x rest ih =>
    rw [withoutLast?] at removed
    cases found : withoutLast? part rest with
    | some lessRest =>
      obtain rfl : x :: lessRest = less := by simpa [found] using removed
      obtain ⟨before, after, rfl, rfl, last⟩ := ih found
      refine ⟨x :: before, after, rfl, rfl, fun earlier later same nonempty => ?_⟩
      cases earlier with
      | nil => exact Nat.zero_le _
      | cons y earlier =>
        simp only [List.cons_append, List.cons.injEq] at same
        exact Nat.succ_le_succ (last earlier later same.2 nonempty)
    | none =>
      simp only [found, Option.ite_none_right_eq_some, Option.some.injEq] at removed
      obtain ⟨⟨after, isPrefix⟩, rfl⟩ := removed
      refine ⟨[], after, isPrefix.symm, by rw [← isPrefix, List.drop_left, List.nil_append],
        fun earlier later same nonempty => ?_⟩
      cases earlier with
      | nil => exact Nat.le_refl _
      | cons y earlier =>
        simp only [List.cons_append, List.cons.injEq] at same
        -- There is no run in the rest, so none that starts later.
        exact absurd ⟨earlier, later, same.2.symm⟩ ((withoutLast?_eq_none_iff nonempty).mp found)

theorem perm_of_withoutLast? (removed : withoutLast? part whole = some less) :
    whole.Perm (part ++ less) := by
  obtain ⟨before, after, rfl, rfl, -⟩ := withoutLast?_eq_some removed
  calc
    (before ++ part ++ after).Perm (part ++ before ++ after) :=
      List.perm_append_comm.append_right after
    _ = part ++ (before ++ after) := List.append_assoc ..

example : withoutLast? [1, 2] [1, 2, 3, 1, 2, 2] = some [1, 2, 3, 2] := by decide

end Runs

/-! ### Delegates -/

/-- A delegate that is not `null`. -/
structure Multicast (H : Type) where
  identity : Nat
  handlers : List H
  nonempty : handlers ≠ []
  deriving DecidableEq

namespace Multicast

variable {H : Type}

/-- A delegate with one handler. -/
def single (identity : Nat) (handler : H) : Multicast H := ⟨identity, [handler], by simp⟩

/-- The handlers of a delegate, which may be `null`. -/
def handlersOf : Option (Multicast H) → List H
  | none => []
  | some d => d.handlers

/-- Two delegates combined. The identity is for a new instance. -/
def combined (identity : Nat) : Option (Multicast H) → Option (Multicast H) → Option (Multicast H)
  | none, added => added
  | some d, none => some d
  | some d, some added => some ⟨identity, d.handlers ++ added.handlers, by simp [d.nonempty]⟩

@[simp] theorem handlersOf_none : handlersOf (none : Option (Multicast H)) = [] := rfl

@[simp] theorem handlersOf_some {d : Multicast H} : handlersOf (some d) = d.handlers := rfl

@[simp] theorem handlers_single {identity : Nat} {handler : H} :
    (single identity handler).handlers = [handler] := rfl

@[simp] theorem handlersOf_eq_nil_iff {d : Option (Multicast H)} :
    handlersOf d = [] ↔ d = none := by
  cases d with
  | none => simp
  | some d => simp [d.nonempty]

@[simp] theorem handlersOf_combined {identity : Nat} {d added : Option (Multicast H)} :
    handlersOf (combined identity d added) = handlersOf d ++ handlersOf added := by
  cases d <;> cases added <;> simp [combined]

variable [DecidableEq H]

/-- A delegate with the last run of the handlers of another taken out. The identity is for a new
instance. -/
def removed (identity : Nat) (d : Option (Multicast H)) :
    Option (Multicast H) → Option (Multicast H)
  | none => d
  | some taken =>
    match withoutLast? taken.handlers (handlersOf d) with
    | none => d
    | some rest => if nonempty : rest ≠ [] then some ⟨identity, rest, nonempty⟩ else none

variable {identity : Nat} {d : Option (Multicast H)} {taken : Multicast H}

theorem handlersOf_removed :
    handlersOf (removed identity d (some taken)) =
      (withoutLast? taken.handlers (handlersOf d)).getD (handlersOf d) := by
  rw [removed]
  cases withoutLast? taken.handlers (handlersOf d) with
  | none => rfl
  | some rest => cases rest <;> rfl

/-- A removal takes out the handlers of the other delegate if it changes anything. -/
theorem handlersOf_removed_perm (found : taken.handlers <:+: handlersOf d) :
    (handlersOf d).Perm (taken.handlers ++ handlersOf (removed identity d (some taken))) := by
  rw [handlersOf_removed]
  cases removed : withoutLast? taken.handlers (handlersOf d) with
  | none => exact absurd found ((withoutLast?_eq_none_iff taken.nonempty).mp removed)
  | some rest => exact perm_of_withoutLast? removed

/-- A removal gives the same instance exactly if there is nothing to remove. -/
theorem removed_eq_self_iff :
    removed identity d (some taken) = d ↔ ¬ taken.handlers <:+: handlersOf d := by
  constructor
  · intro same found
    have taking : (handlersOf d).length =
        (taken.handlers ++ handlersOf (removed identity d (some taken))).length :=
      (handlersOf_removed_perm found).length_eq
    -- A delegate has a handler, so a removal of what is there makes the list shorter.
    have some_taken : 0 < taken.handlers.length := List.length_pos_iff.mpr taken.nonempty
    rw [same, List.length_append] at taking
    omega
  · intro notFound
    rw [removed, (withoutLast?_eq_none_iff taken.nonempty).mpr notFound]

/-- A removal adds no handlers. -/
theorem length_removed_le {taken : Option (Multicast H)} :
    (handlersOf (removed identity d taken)).length ≤ (handlersOf d).length := by
  cases taken with
  | none => exact Nat.le_refl _
  | some taken =>
    by_cases found : taken.handlers <:+: handlersOf d
    · have taking : (handlersOf d).length =
          (taken.handlers ++ handlersOf (removed identity d (some taken))).length :=
        (handlersOf_removed_perm found).length_eq
      rw [taking, List.length_append]
      exact Nat.le_add_left _ _
    · rw [removed_eq_self_iff.mpr found]

end Multicast

end InteropGlue.CSharp
