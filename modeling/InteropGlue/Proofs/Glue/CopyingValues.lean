import InteropGlue.Proofs.Glue.Copying
/-!
# What the statements of a copy do

The statements for a value are run form by form: a single assignment for most types, a guarded fill
for a class in place, and a loop for an array. A loop that has come to an index has stored the
elements below it, and each of its turns stores one more.

## Main Results

* `Library.loop_iff` — the elements that a loop stores from an index on.
* `Library.exec_copyValue_iff` — the statements that copy a value store the one of `Copies`.
-/

namespace InteropGlue

open CSharp

namespace Library

variable {F : Framework} {lib : Library} {M : Machine F} {σ τ : State F} {key source before : Value F}
  {rule : CopyRule} {src dest e : Expr} {ending : Ending F}

/-! ### Sources -/

theorem exists_read_of_call {routine : String} {args : List Expr} {value : Value F}
    (places : ∀ e ∈ args, e.isPlace = true) (member : src ∈ args)
    (evaluated : eval M σ (.callOwn routine args) = some (value, τ)) :
    ∃ found, σ.read src = some found := by
  obtain ⟨given, _, _, argsEvaluated, -, -⟩ := eval_call_iff.mp evaluated
  have still : ∀ arg ∈ args.map Arg.value, arg.expr.IsStill M σ := by
    simp only [List.mem_map, forall_exists_index, and_imp, forall_apply_eq_imp_iff₂]
    exact fun e isArg => .of_place (places e isArg)
  obtain ⟨gives, -⟩ := (evalArgs_iff still).mp argsEvaluated
  rw [List.forall₂_map_left_iff] at gives
  clear still argsEvaluated evaluated
  induction gives with
  | nil => simp at member
  | @cons first _ _ _ firstGives _ ih =>
    rcases List.mem_cons.mp member with rfl | later
    · obtain ⟨found, evaluated, -⟩ := firstGives
      exact ⟨found, ((eval_place_iff (places _ List.mem_cons_self)).mp evaluated).1⟩
    · exact ih (fun e isArg => places e (List.mem_cons_of_mem _ isArg)) later

/-- Copying needs a source. -/
theorem exists_source {count : Option Expr} {type : TypeRef} {run : Ending F × State F}
    (isPlace : src.isPlace = true)
    (ran : exec M σ (lib.copyValue rule src dest count type) = some run) :
    ∃ found, σ.read src = some found := by
  have assigned : ∀ {e : Expr},
      (∀ {value middle}, eval M σ e = some (value, middle) → ∃ found, σ.read src = some found) →
        exec M σ (.ofSteps [.assign dest e]) = some run → ∃ found, σ.read src = some found := by
    intro e needs ran
    obtain ⟨value, middle, _, evaluated, -⟩ := exec_assign_iff.mp ran
    exact needs evaluated
  have converted : exec M σ (.ofSteps [.assign dest (rule.convert src)]) = some run →
      ∃ found, σ.read src = some found :=
    assigned fun evaluated =>
      exists_read_of_call (by simp [isPlace, machineExpr]) (by simp) evaluated
  have compared : ∀ {body}, exec M σ (.ifHolds (.compare .notEqual src .null) body) = some run →
      ∃ found, σ.read src = some found := by
    intro body ran
    rw [Block.ifHolds, exec, eval_isNotNull isPlace] at ran
    cases found : σ.read src with
    | none => simp [found] at ran
    | some value => exact ⟨value, rfl⟩
  cases type with
  | array element count => exact compared ran
  | named name =>
    rw [copyValue] at ran
    split at ran
    · exact converted ran
    · exact converted ran
    · split at ran
      · exact compared ran
      · exact converted ran
    · exact assigned (fun evaluated => exists_read_of_call (by simp [isPlace]) (by simp) evaluated) ran
    · exact assigned (fun evaluated => ⟨_, ((eval_place_iff isPlace).mp evaluated).1⟩) ran

/-! ### Assignments -/

/-- A part of a variable is assigned as it is stored. -/
def IsPart (dest : Expr) : Prop := ∀ name, dest ≠ .name name

theorem IsPart.assign (isPart : IsPart dest) {value : Value F} :
    σ.assign dest value = σ.store dest value := by
  cases dest with
  | name name => exact absurd rfl (isPart name)
  | _ => rfl

theorem exec_assign_part (isPart : IsPart dest) :
    exec M σ (.ofSteps [.assign dest e]) = some (ending, τ) ↔
      ending = .next ∧ ∃ value middle, eval M σ e = some (value, middle) ∧
        middle.store dest value = some τ := by
  simp only [Block.ofSteps, List.foldr_cons, List.foldr_nil, exec_assign_iff, exec_done_iff,
    isPart.assign]
  constructor
  · rintro ⟨value, middle, _, evaluated, stored, rfl, rfl⟩
    exact ⟨rfl, value, middle, evaluated, stored⟩
  · rintro ⟨rfl, value, middle, evaluated, stored⟩
    exact ⟨value, middle, τ, evaluated, stored, rfl, rfl⟩

/-! ### Loops -/

/-- An index is compared with a count. -/
theorem eval_index_less {size : Value F} {length position : Nat}
    (isLength : size.index? = some length) :
    eval M (rule.inLoop σ size position)
        (.compare .less (.name rule.indexName) (.name rule.countName)) =
      some (.truth (decide (position < length)), rule.inLoop σ size position) := by
  obtain ⟨type, rfl⟩ := Value.eq_number_of_index? isLength
  rw [eval, eval_place (isPlace_name _), CopyRule.index_inLoop]
  simp only [Option.map_some, Option.bind_eq_bind, Option.bind_some,
    eval_place (isPlace_name _), CopyRule.count_inLoop, Value.compare, Int.ofNat_lt]

section Loop

variable {elementType : String} {element : TypeRef} {size : Value F} {length : Nat} {body : Block}
  (destPart : PlaceOf "infoDest" (IsIndexBelow rule.depth) dest)
  (srcPart : PlaceOf "infoSrc" (IsIndexBelow rule.depth) src)
  {position : Nat} {content : Fin length → Value F} {σ' : State F}
  (stored : σ.store dest (.array elementType .fresh length content) = some σ')

section Destination

include destPart stored

/-- In a loop, the array that was stored is still at the destination. -/
theorem holds_inLoop :
    (rule.inLoop σ' size position).Holds dest (.array elementType .fresh length content) := by
  have notCount : rule.countName ≠ "infoDest" := count_ne _ (by decide)
  have holds := destPart.holds_store (not_isIndexBelow_infoDest _) stored
  constructor
  · rw [CopyRule.read_inLoop destPart (index_ne_infoDest _) notCount, holds.read]
  · rw [CopyRule.store_inLoop destPart (index_ne_infoDest _) notCount, holds.store]
    rfl

/-- Storing an element in a loop replaces it in the array at the destination. -/
theorem store_element_inLoop (less : position < length) (after : Value F) :
    (rule.inLoop σ' size position).store (.element dest (.name rule.indexName)) after =
      (σ.store dest (.array elementType .fresh length
        (Function.update content ⟨position, less⟩ after))).map
          (rule.inLoop · size position) := by
  have holds := @holds_inLoop F σ rule dest elementType size length destPart position content σ'
    stored
  rw [← destPart.store_store (not_isIndexBelow_infoDest _) stored,
    ← CopyRule.store_inLoop destPart (index_ne_infoDest _) (count_ne _ (by decide))]
  simp only [State.store, CopyRule.index_inLoop, holds.read, Option.bind_eq_bind,
    Option.bind_some, Value.index?_number, Value.withElement, less, dite_true]

/-- After a turn the loop goes on at the next index, with one more element stored. -/
theorem loop_goesOn (less : position < length) {after : Value F} {σ'' : State F}
    (storedWhole : σ.store dest (.array elementType .fresh length
      (Function.update content ⟨position, less⟩ after)) = some σ'') :
    (do
      let inner := (rule.inLoop σ'' size position).leaving (rule.inLoop σ' size position)
      let position ← (← inner.read (.name rule.indexName)).index?
      let next ← inner.store (.name rule.indexName) (.number "int" (position + 1))
      loop M next rule.indexName (.name rule.countName) body) =
    loop M (rule.inLoop σ'' size (position + 1)) rule.indexName (.name rule.countName) body := by
  have elementPart : PlaceOf "infoDest" (IsIndexBelow (rule.depth + 1))
      (.element dest (.name rule.indexName)) :=
    .element (destPart.mono fun _ => IsIndexBelow.mono) ⟨rule.depth, by omega, rfl⟩
  have storedAfter : (rule.inLoop σ' size position).store
      (.element dest (.name rule.indexName)) after = some (rule.inLoop σ'' size position) := by
    rw [store_element_inLoop destPart stored less, storedWhole]
    rfl
  simp only [elementPart.leaving_store storedAfter, CopyRule.index_inLoop, Option.bind_eq_bind,
    Option.bind_some, Value.index?_number, CopyRule.store_index_inLoop]

/-- The index of a loop is gone after it, and the count is still there. -/
theorem leaving_inLoop {final : Value F} {after : State F}
    (indexAbsent : (σ'.set rule.countName (.holds size)).locals rule.indexName = .absent)
    (storedFinal : σ.store dest final = some after) :
    (rule.inLoop after size position).leaving (σ'.set rule.countName (.holds size)) =
      after.set rule.countName (.holds size) := by
  obtain ⟨-, _, rfl⟩ := destPart.store_eq_set stored
  obtain ⟨present, _, rfl⟩ := destPart.store_eq_set storedFinal
  rw [CopyRule.inLoop, State.leaving_set indexAbsent]
  refine State.leaving_of_absent fun name absent => ?_
  by_cases isCount : name = rule.countName
  · rw [isCount, State.locals_set_self] at absent
    exact absurd absent (by simp)
  · rw [State.locals_set_of_ne isCount] at absent ⊢
    by_cases isDest : name = "infoDest"
    · rw [isDest, State.locals_set_self] at absent
      exact absurd absent (by simp)
    · rwa [State.locals_set_of_ne isDest] at absent ⊢

end Destination

variable (copying : Copying σ key rule.depth) (read : σ.read src = some source)
  (isLength : size.index? = some length)
  (quiet : ∀ position part, source.element position = some part → M.QuietWithin key element part)
  (needs : ∀ {σ' run}, exec M σ' body = some run →
    ∃ part, σ'.read (.element src (.name rule.indexName)) = some part)
  (turn : ∀ {σ' part old ending τ}, Copying σ' key (rule.depth + 1) →
    σ'.read (.element src (.name rule.indexName)) = some part →
    σ'.Holds (.element dest (.name rule.indexName)) old → M.QuietWithin key element part →
    (exec M σ' body = some (ending, τ) ↔
      ending = .next ∧ ∃ after, lib.Copies M rule.forElements key element (part.member "Length")
        part old after ∧ σ'.store (.element dest (.name rule.indexName)) after = some τ))
include destPart srcPart copying read quiet needs turn stored

/-- One turn of a loop converts one element. -/
theorem turn_iff (less : position < length) :
    exec M (rule.inLoop σ' size position) body = some (ending, τ) ↔
      ending = .next ∧ ∃ part after σ'', source.element position = some part ∧
        lib.Copies M rule.forElements key element (part.member "Length") part
            (content ⟨position, less⟩) after ∧
          σ.store dest (.array elementType .fresh length
            (Function.update content ⟨position, less⟩ after)) = some σ'' ∧
          τ = rule.inLoop σ'' size position := by
  have isPosition : ((rule.inLoop σ' size position).read (.name rule.indexName)).bind
      Value.index? = some position := by
    rw [CopyRule.index_inLoop]
    rfl
  have sourceRead : (rule.inLoop σ' size position).read src = some source := by
    rw [CopyRule.read_inLoop srcPart (index_ne_infoSrc _) (count_ne _ (by decide)),
      srcPart.read_of_store destPart (by decide) (not_isIndexBelow_infoDest _) stored, read]
  have old : (rule.inLoop σ' size position).Holds (.element dest (.name rule.indexName))
      (content ⟨position, less⟩) :=
    (holds_inLoop destPart stored).element isPosition (by simp [Value.element, less])
  have inner : Copying (rule.inLoop σ' size position) key (rule.depth + 1) :=
    (copying.store destPart stored).inLoop position
  constructor
  · intro ran
    obtain ⟨part, partRead⟩ := needs ran
    obtain ⟨position', whole, isPosition', wholeRead, isElement⟩ :=
      State.read_element_eq_some_iff.mp partRead
    obtain rfl : position = position' := Option.some.inj (isPosition.symm.trans isPosition')
    obtain rfl : source = whole := Option.some.inj (sourceRead.symm.trans wholeRead)
    obtain ⟨rfl, after, copies, storedAfter⟩ :=
      (turn inner partRead old (quiet position part isElement)).mp ran
    rw [store_element_inLoop destPart stored less, Option.map_eq_some_iff] at storedAfter
    obtain ⟨σ'', storedWhole, rfl⟩ := storedAfter
    exact ⟨rfl, part, after, σ'', isElement, copies, storedWhole, rfl⟩
  · rintro ⟨rfl, part, after, σ'', isElement, copies, storedWhole, rfl⟩
    have partRead : (rule.inLoop σ' size position).read (.element src (.name rule.indexName)) =
        some part :=
      State.read_element_eq_some_iff.mpr ⟨position, source, isPosition, sourceRead, isElement⟩
    refine (turn inner partRead old (quiet position part isElement)).mpr ⟨rfl, after, copies, ?_⟩
    rw [store_element_inLoop destPart stored less, storedWhole]
    rfl

include isLength

/-- The elements that a loop stores from an index on. -/
theorem loop_iff (inside : position ≤ length) :
    loop M (rule.inLoop σ' size position) rule.indexName (.name rule.countName) body =
        some (ending, τ) ↔
      ending = .next ∧ ∃ (final : Fin length → Value F) (after : State F),
        (∀ i : Fin length, i.val < position → final i = content i) ∧
          (∀ i : Fin length, position ≤ i.val → ∃ part, source.element i = some part ∧
            lib.Copies M rule.forElements key element (part.member "Length") part (content i)
              (final i)) ∧
            σ.store dest (.array elementType .fresh length final) = some after ∧
              τ = rule.inLoop after size length := by
  obtain ⟨rest, same⟩ := Nat.exists_eq_add_of_le inside
  have compared := @eval_index_less F M σ' rule size length position isLength
  induction rest generalizing position content σ' with
  | zero =>
    obtain rfl : length = position := by omega
    rw [loop_end (by rw [compared]; simp), Option.some.injEq, Prod.mk.injEq]
    constructor
    · rintro ⟨rfl, rfl⟩
      exact ⟨rfl, content, σ', fun _ _ => rfl, fun i beyond => absurd i.isLt (by omega), stored, rfl⟩
    · rintro ⟨rfl, final, after, unchanged, -, storedFinal, rfl⟩
      obtain rfl : final = content := funext fun i => unchanged i i.isLt
      obtain rfl : σ' = after := Option.some.inj (stored.symm.trans storedFinal)
      exact ⟨rfl, rfl⟩
  | succ rest ih =>
    have less : position < length := by omega
    have turnIff : ∀ {ending τ},
        exec M (rule.inLoop σ' size position) body = some (ending, τ) ↔ _ :=
      turn_iff destPart srcPart stored copying read quiet needs turn less
    have later : ∀ {after : Value F} {σ'' : State F}, _ → (_ ↔ _) := fun {after σ''} storedWhole =>
      @ih (position + 1) (Function.update content ⟨position, less⟩ after) σ'' storedWhole less
        (by omega) (@eval_index_less F M σ'' rule size length (position + 1) isLength)
    have apart : ∀ i : Fin length, i.val ≠ position → ∀ after,
        Function.update content ⟨position, less⟩ after i = content i := fun i different after =>
      Function.update_of_ne (fun same => different (congrArg Fin.val same)) _ _
    rw [loop_turn (by rw [compared]; simp [less]), Option.bind_eq_some_iff]
    constructor
    · rintro ⟨⟨_, _⟩, ran, continued⟩
      obtain ⟨rfl, part, after, σ'', isElement, copies, storedWhole, rfl⟩ := turnIff.mp ran
      rw [loop_goesOn destPart stored less storedWhole, later storedWhole] at continued
      obtain ⟨rfl, final, last, below, beyond, storedFinal, rfl⟩ := continued
      refine ⟨rfl, final, last, fun i before => ?_, fun i reached => ?_, storedFinal, rfl⟩
      · rw [below i (by omega), apart i (by omega)]
      · by_cases here : i.val = position
        · obtain rfl : i = ⟨position, less⟩ := Fin.ext here
          rw [below ⟨position, less⟩ (by simp), Function.update_self]
          exact ⟨part, isElement, copies⟩
        · have converted := beyond i (by omega)
          rwa [apart i here] at converted
    · rintro ⟨rfl, final, last, below, beyond, storedFinal, rfl⟩
      obtain ⟨part, isElement, copies⟩ := beyond ⟨position, less⟩ (Nat.le_refl _)
      obtain ⟨σ'', storedWhole⟩ := destPart.exists_store stored (.array elementType .fresh length
        (Function.update content ⟨position, less⟩ (final ⟨position, less⟩)))
      refine ⟨(.next, rule.inLoop σ'' size position), turnIff.mpr
        ⟨rfl, part, _, σ'', isElement, copies, storedWhole, rfl⟩, ?_⟩
      rw [loop_goesOn destPart stored less storedWhole, later storedWhole]
      refine ⟨rfl, final, last, fun i before => ?_, fun i reached => ?_, storedFinal, rfl⟩
      · by_cases here : i.val = position
        · obtain rfl : i = ⟨position, less⟩ := Fin.ext here
          rw [Function.update_self]
        · rw [apart i here, below i (by omega)]
      · rw [apart i (by omega)]
        exact beyond i (by omega)

/-- A whole loop starts at the first index and leaves its own index behind. -/
theorem exec_copyLoop_iff :
    exec M (σ'.set rule.countName (.holds size))
        (.counted rule.indexName (.name rule.countName) body .done) = some (ending, τ) ↔
      ending = .next ∧ ∃ (final : Fin length → Value F) (after : State F),
        (∀ i : Fin length, ∃ part, source.element i = some part ∧
          lib.Copies M rule.forElements key element (part.member "Length") part (content i)
            (final i)) ∧
          σ.store dest (.array elementType .fresh length final) = some after ∧
            τ = after.set rule.countName (.holds size) := by
  have indexAbsent : (σ'.set rule.countName (.holds size)).locals rule.indexName = .absent := by
    rw [State.locals_set_of_ne (show rule.indexName ≠ rule.countName from index_ne_count _ _)]
    exact (copying.store destPart stored).index_absent _ (Nat.le_refl _)
  have runs : ∀ {ending τ}, loop M ((σ'.set rule.countName (.holds size)).set rule.indexName
      (.holds (.number "int" 0))) rule.indexName (.name rule.countName) body =
        some (ending, τ) ↔ _ :=
    loop_iff destPart srcPart stored copying read isLength quiet needs turn (Nat.zero_le _)
  rw [exec_counted indexAbsent, Option.bind_eq_some_iff]
  constructor
  · rintro ⟨⟨_, _⟩, ran, continued⟩
    obtain ⟨rfl, final, after, -, elements, storedFinal, rfl⟩ := runs.mp ran
    simp only [leaving_inLoop destPart stored indexAbsent storedFinal, exec_done_iff] at continued
    obtain ⟨rfl, rfl⟩ := continued
    exact ⟨rfl, final, after, fun i => elements i (Nat.zero_le _), storedFinal, rfl⟩
  · rintro ⟨rfl, final, after, elements, storedFinal, rfl⟩
    refine ⟨(.next, rule.inLoop after size length), runs.mpr
      ⟨rfl, final, after, fun i below => absurd below (Nat.not_lt_zero _),
        fun i _ => elements i, storedFinal, rfl⟩, ?_⟩
    simp only [leaving_inLoop destPart stored indexAbsent storedFinal, exec_done_iff, and_self]

omit stored in
/-- The statements for an array store a new one with an element for each index below the count. -/
theorem exec_copyArray_iff {old : Value F} {sizeExpr : Expr} (isPart : IsPart dest)
    (holds : σ.Holds dest old) (isCount : sizeExpr.isPlace = true)
    (counted : σ.read sizeExpr = some size) :
    exec M σ
        (.step (.bind rule.countName sizeExpr)
          (.step (.assign dest (.createArray elementType (.name rule.countName)))
            (.counted rule.indexName (.name rule.countName) body .done))) = some (ending, τ) ↔
      ending = .next ∧ ∃ start, M.createArray? elementType size =
          some (.array elementType .fresh length fun _ => start) ∧
        ∃ (content : Fin length → Value F) (after : State F),
          (∀ i : Fin length, ∃ part, source.element i = some part ∧
            lib.Copies M rule.forElements key element (part.member "Length") part start
              (content i)) ∧
            σ.store dest (.array elementType .fresh length content) = some after ∧
              τ = after.set rule.countName (.holds size) := by
  have outside : rule.countName ≠ "infoDest" := count_ne _ (by decide)
  have notIndex : ¬ IsIndexBelow rule.depth rule.countName := not_isIndexBelow_count _ _
  have countAbsent : σ.locals rule.countName = .absent := copying.count_absent _ (Nat.le_refl _)
  have countRead : (σ.set rule.countName (.holds size)).read (.name rule.countName) =
      some size := by
    rw [State.read_name, State.locals_set_self]
    rfl
  -- The new array is assigned while the count is in scope.
  have assigned : ∀ {array σ₂}, (σ.set rule.countName (.holds size)).assign dest array = some σ₂ ↔
      ∃ σ₁, σ.store dest array = some σ₁ ∧ σ₁.set rule.countName (.holds size) = σ₂ := by
    intro array σ₂
    rw [isPart.assign, destPart.store_set outside notIndex, Option.map_eq_some_iff]
  -- The loop starts with the default elements.
  have looped : ∀ {content σ₁ ending τ},
      σ.store dest (.array elementType .fresh length content) = some σ₁ → (_ = _ ↔ _) :=
    fun {content σ₁ ending τ} stored => @exec_copyLoop_iff F lib M σ τ key source rule src dest
      ending elementType element size length body destPart srcPart content σ₁ stored copying read
      isLength quiet needs turn
  simp only [exec_bind_iff, exec_assign_iff, eval_place_iff isCount, counted]
  constructor
  · rintro ⟨_, _, ⟨same, rfl⟩, -, array, middle, σ₂, evaluated, isAssigned, ran⟩
    obtain rfl := Option.some.inj same
    obtain ⟨created, rfl⟩ := (eval_createArray_iff (isPlace_name _) countRead).mp evaluated
    obtain ⟨length', start, isLength', rfl⟩ := Machine.eq_array_of_createArray? created
    obtain rfl : length = length' := Option.some.inj (isLength.symm.trans isLength')
    obtain ⟨σ₁, stored, rfl⟩ := assigned.mp isAssigned
    obtain ⟨rfl, final, after, elements, storedFinal, rfl⟩ := (looped stored).mp ran
    exact ⟨rfl, start, created, final, after, elements, storedFinal, rfl⟩
  · rintro ⟨rfl, start, created, content, after, elements, storedFinal, rfl⟩
    obtain ⟨σ₁, stored⟩ := destPart.exists_store holds.store
      (.array elementType .fresh length fun _ => start)
    exact ⟨size, σ, ⟨rfl, rfl⟩, countAbsent, _, _, _,
      (eval_createArray_iff (isPlace_name _) countRead).mpr ⟨created, rfl⟩,
      assigned.mpr ⟨σ₁, stored, rfl⟩,
      (looped stored).mpr ⟨rfl, content, after, elements, storedFinal, rfl⟩⟩

end Loop

/-- An array is made for a count that is a number. -/
theorem exists_length {sizeExpr : Expr} {elementType : String} {rest : Block}
    {run : Ending F × State F} (isCount : sizeExpr.isPlace = true)
    (ran : exec M σ (.step (.bind rule.countName sizeExpr)
      (.step (.assign dest (.createArray elementType (.name rule.countName))) rest)) = some run) :
    ∃ size length, σ.read sizeExpr = some size ∧ size.index? = some length := by
  obtain ⟨size, middle, evaluated, -, continued⟩ := exec_bind_iff.mp ran
  obtain ⟨sizeRead, rfl⟩ := (eval_place_iff isCount).mp evaluated
  obtain ⟨array, after, _, created, -⟩ := exec_assign_iff.mp continued
  have countRead : (middle.set rule.countName (.holds size)).read (.name rule.countName) =
      some size := by
    rw [State.read_name, State.locals_set_self]
    rfl
  obtain ⟨made, -⟩ := (eval_createArray_iff (isPlace_name _) countRead).mp created
  obtain ⟨length, _, isLength, -⟩ := Machine.eq_array_of_createArray? made
  exact ⟨size, length, sizeRead, isLength⟩

/-! ### Values -/

section Value

variable (booleans : M.QuietBooleans) (isPart : IsPart dest)
  (srcPart : PlaceOf "infoSrc" (IsIndexBelow rule.depth) src)
  (destPart : PlaceOf "infoDest" (IsIndexBelow rule.depth) dest)
  (copying : Copying σ key rule.depth) (read : σ.read src = some source)
  (holds : σ.Holds dest before)

include isPart in
/-- An assignment of a value that is taken without changing the state. -/
theorem exec_assign_still (property : Value F → Prop)
    (evaluated : ∀ value middle, eval M σ e = some (value, middle) ↔ property value ∧ middle = σ) :
    exec M σ (.ofSteps [.assign dest e]) = some (ending, τ) ↔
      ending = .next ∧ ∃ after, property after ∧ σ.store dest after = some τ := by
  rw [exec_assign_part isPart]
  simp only [evaluated]
  constructor
  · rintro ⟨rfl, value, _, ⟨holds, rfl⟩, stored⟩
    exact ⟨rfl, value, holds, stored⟩
  · rintro ⟨rfl, value, holds, stored⟩
    exact ⟨rfl, value, σ, ⟨holds, rfl⟩, stored⟩

include srcPart destPart copying read holds in
/-- An instance at the destination is filled. -/
theorem exec_fill_iff (quiet : M.Quiet key source) :
    exec M σ (.ofSteps [.evaluate (.callOwn rule.conversion.copyRoutine [machineExpr, src, dest])]) =
        some (ending, τ) ↔
      ending = .next ∧ ∃ final,
        M.Fills rule.conversion.copyRoutine .byValue key source before final ∧
          σ.store dest (before.afterCall final) = some τ := by
  have input : Passing.byValue ≠ .out := by simp
  have filled : ∀ {τ}, (∃ value, eval M σ
      (.callOwn rule.conversion.copyRoutine [machineExpr, src, dest]) = some (value, τ)) ↔ _ :=
    eval_fill input copying.key srcPart read destPart holds quiet.fill
  simp only [↓reduceIte] at filled
  simp only [Block.ofSteps, List.foldr_cons, List.foldr_nil, exec_evaluate_iff, exec_done_iff]
  rw [← filled]
  constructor
  · rintro ⟨value, _, evaluated, rfl, rfl⟩
    exact ⟨rfl, value, evaluated⟩
  · rintro ⟨rfl, value, evaluated⟩
    exact ⟨value, τ, evaluated, rfl, rfl⟩

include srcPart read holds in
/-- Statements that are guarded by a source run if there is one. Else the destination keeps what it
holds. -/
theorem exec_ifNotNull_iff {body : Block} {property : Value F → Prop}
    (ran : ∀ ending τ, (∃ inside, exec M σ body = some (ending, inside) ∧ inside.leaving σ = τ) ↔
      ending = .next ∧ ∃ after, property after ∧ σ.store dest after = some τ) :
    exec M σ (.ifHolds (.compare .notEqual src .null) body) = some (ending, τ) ↔
      ending = .next ∧ ∃ after, (if source.isNull then after = before else property after) ∧
        σ.store dest after = some τ := by
  have notNull : eval M σ (.compare .notEqual src .null) = some (.truth (!source.isNull), σ) := by
    rw [eval_isNotNull srcPart.isPlace, read]
    rfl
  rw [Block.ifHolds, exec_guarded notNull]
  by_cases isNull : source.isNull = true
  · simp only [isNull, Bool.not_true, Bool.false_eq_true, if_false, exec_done_iff, if_true,
      exists_eq_left, holds.store, Option.some.injEq]
    exact and_congr_right fun _ => eq_comm
  · simp only [isNull, Bool.not_false, if_true, Bool.false_eq_true, if_false,
      Option.bind_eq_some_iff, Prod.exists]
    constructor
    · rintro ⟨_, inside, bodyRan, continued⟩
      obtain ⟨rfl, after, given, stored⟩ := (ran _ _).mp ⟨inside, bodyRan, rfl⟩
      simp only [exec_done_iff] at continued
      obtain ⟨rfl, rfl⟩ := continued
      exact ⟨rfl, after, given, stored⟩
    · rintro ⟨rfl, after, given, stored⟩
      obtain ⟨inside, bodyRan, rfl⟩ := (ran .next τ).mpr ⟨rfl, after, given, stored⟩
      exact ⟨.next, inside, bodyRan, exec_done_iff.mpr ⟨rfl, rfl⟩⟩

include srcPart destPart copying read in
/-- What is filled after an assignment is the instance that was assigned. -/
theorem exec_fill_iff_of_store (quiet : M.Quiet key source) {start : Value F} {σ' : State F}
    (stored : σ.store dest start = some σ') :
    exec M σ' (.ofSteps [.evaluate (.callOwn rule.conversion.copyRoutine [machineExpr, src, dest])]) =
        some (ending, τ) ↔
      ending = .next ∧ ∃ final,
        M.Fills rule.conversion.copyRoutine .byValue key source start final ∧
          σ.store dest (start.afterCall final) = some τ := by
  have readAfter : σ'.read src = some source :=
    (srcPart.read_of_store destPart (by decide) (not_isIndexBelow_infoDest _) stored).trans read
  have holdsAfter := destPart.holds_store (not_isIndexBelow_infoDest _) stored
  rw [exec_fill_iff srcPart destPart (copying.store destPart stored) readAfter holdsAfter quiet]
  simp only [destPart.store_store (not_isIndexBelow_infoDest _) stored]

include srcPart destPart copying read holds in
/-- An instance is made if there is none, and filled. -/
theorem exec_makeAndFill_iff {typeName : String} (isPart : IsPart dest)
    (quiet : M.Quiet key source) :
    exec M σ (.guarded (.compare .equal dest .null) (.ofSteps [.assign dest (.create typeName [])])
        (.ofSteps [.evaluate (.callOwn rule.conversion.copyRoutine [machineExpr, src, dest])])) =
          some (ending, τ) ↔
      ending = .next ∧ ∃ start final,
        (if before.isNull then M.construct? typeName = some start else start = before) ∧
          M.Fills rule.conversion.copyRoutine .byValue key source start final ∧
            σ.store dest (start.afterCall final) = some τ := by
  have isNull : eval M σ (.compare .equal dest .null) = some (.truth before.isNull, σ) := by
    rw [eval_isNull destPart.isPlace, holds.read]
    rfl
  rw [exec_guarded isNull]
  cases before.isNull with
  | false =>
    simp only [Bool.false_eq_true, if_false, exists_and_left, exists_eq_left]
    exact exec_fill_iff srcPart destPart copying read holds quiet
  | true =>
    have made : ∀ {ending τ}, exec M σ (.ofSteps [.assign dest (.create typeName [])]) =
        some (ending, τ) ↔ _ :=
      exec_assign_still isPart (fun start => M.construct? typeName = some start)
        fun _ _ => eval_create_iff
    have filled : ∀ {start σ' ending τ}, σ.store dest start = some σ' → (_ = _ ↔ _) :=
      fun {start σ' ending τ} stored => @exec_fill_iff_of_store F M σ τ key source rule src dest
        ending srcPart destPart copying read quiet start σ' stored
    simp only [if_true, Option.bind_eq_some_iff, Prod.exists]
    constructor
    · rintro ⟨_, σ', ran, continued⟩
      obtain ⟨rfl, start, constructed, stored⟩ := made.mp ran
      simp only [destPart.leaving_store stored, filled stored] at continued
      obtain ⟨rfl, final, fills, storedFinal⟩ := continued
      exact ⟨rfl, start, final, constructed, fills, storedFinal⟩
    · rintro ⟨rfl, start, final, constructed, fills, storedFinal⟩
      obtain ⟨σ', stored⟩ := destPart.exists_store holds.store start
      refine ⟨.next, σ', made.mpr ⟨rfl, start, constructed, stored⟩, ?_⟩
      simp only [destPart.leaving_store stored]
      exact (filled stored).mpr ⟨rfl, final, fills, storedFinal⟩

include srcPart destPart copying read holds in
/-- A class in place is filled, with a new instance if there is none. -/
theorem exec_fillClass_iff {type : TypeRef} (isPart : IsPart dest) (quiet : M.Quiet key source) :
    exec M σ (lib.fillClass rule type src dest) = some (ending, τ) ↔
      ending = .next ∧ ∃ after,
        (if source.isNull then after = before
        else ∃ start final,
          (if before.isNull then
            M.construct? (lib.typeName (rule.conversion.destMode rule.target) type) = some start
          else start = before) ∧
            M.Fills rule.conversion.copyRoutine .byValue key source start final ∧
              after = start.afterCall final) ∧
          σ.store dest after = some τ := by
  have filled : ∀ {ending τ}, _ = some (ending, τ) ↔ _ := fun {ending τ} =>
    @exec_makeAndFill_iff F M σ τ key source before rule src dest ending srcPart destPart copying
      read holds (lib.typeName (rule.conversion.destMode rule.target) type) isPart quiet
  refine exec_ifNotNull_iff srcPart read holds fun ending τ => ?_
  constructor
  · rintro ⟨inside, ran, rfl⟩
    obtain ⟨rfl, start, final, started, fills, stored⟩ := filled.mp ran
    rw [destPart.leaving_store stored]
    exact ⟨rfl, _, ⟨start, final, started, fills, rfl⟩, stored⟩
  · rintro ⟨rfl, _, ⟨start, final, started, fills, rfl⟩, stored⟩
    exact ⟨τ, filled.mpr ⟨rfl, start, final, started, fills, stored⟩,
      destPart.leaving_store stored⟩

/-- The statements that copy a value store the one of `Copies`, and nothing else. -/
theorem exec_copyValue_iff (booleans : M.QuietBooleans) {type : TypeRef} {count : Option Expr}
    {size : Option (Value F)} (isPart : IsPart dest)
    (srcPart : PlaceOf "infoSrc" (IsIndexBelow rule.depth) src)
    (destPart : PlaceOf "infoDest" (IsIndexBelow rule.depth) dest)
    (copying : Copying σ key rule.depth) (read : σ.read src = some source)
    (holds : σ.Holds dest before) (quiet : M.QuietWithin key type source)
    (isCount : (count.getD (.member src "Length")).isPlace = true)
    (counted : σ.read (count.getD (.member src "Length")) = size) :
    exec M σ (lib.copyValue rule src dest count type) = some (ending, τ) ↔
      ending = .next ∧
        ∃ after, lib.Copies M rule key type size source before after ∧
          σ.store dest after = some τ := by
  induction type generalizing rule src dest count size σ τ source before ending with
  | named name =>
    have converted : exec M σ (.ofSteps [.assign dest (rule.convert src)]) = some (ending, τ) ↔
        ending = .next ∧ ∃ after, M.Converts rule.conversion.valueRoutine key source after ∧
          σ.store dest after = some τ :=
      exec_assign_still isPart _ fun value middle => eval_convert copying.key srcPart read quiet
    rw [copyValue]
    simp only [Copies]
    cases lib.kindOfName name with
    | structType => exact converted
    | handle => exact converted
    | classType =>
      simp only
      split
      · exact exec_fillClass_iff srcPart destPart copying read holds isPart quiet
      · exact converted
    | bool =>
      exact exec_assign_still isPart _ fun value middle =>
        eval_convertBool srcPart read (booleans rule.conversion source)
    | _ =>
      refine exec_assign_still isPart (fun after => after = source) fun value middle => ?_
      rw [eval_place_iff srcPart.isPlace, read, Option.some.injEq, eq_comm]
  | array element _ ih =>
    have countAbsent : σ.locals rule.countName = .absent := copying.count_absent _ (Nat.le_refl _)
    have left : ∀ {after τ sizeValue}, σ.store dest after = some τ →
        (τ.set rule.countName (.holds sizeValue)).leaving σ = τ := fun stored => by
      rw [State.leaving_set countAbsent, destPart.leaving_store stored]
    have arrays : ∀ {sizeValue : Value F} {length : Nat} {ending : Ending F} {τ : State F},
        sizeValue.index? = some length →
        σ.read (count.getD (.member src "Length")) = some sizeValue → (_ = some (ending, τ) ↔ _) :=
      fun {sizeValue length ending τ} isLength sizeRead =>
        @exec_copyArray_iff F lib M σ τ key source rule src dest ending
          (lib.typeName (rule.conversion.destMode rule.target) element) element sizeValue length
          (lib.copyValue rule.forElements (.element src (.name rule.indexName))
            (.element dest (.name rule.indexName)) none element)
          destPart srcPart copying read isLength quiet (fun ran => exists_source rfl ran)
          (fun {σ' part old ending τ} copying read holds quiet => by
            have isIndex : IsIndexBelow (rule.depth + 1) rule.indexName :=
              ⟨rule.depth, by omega, rfl⟩
            refine @ih σ' τ part old rule.forElements _ _ ending none (part.member "Length")
              (by simp [IsPart]) (.element (srcPart.mono fun _ => IsIndexBelow.mono) isIndex)
              (.element (destPart.mono fun _ => IsIndexBelow.mono) isIndex) copying read holds quiet
              rfl ?_
            rw [Option.getD_none, State.read, read]
            rfl) before _ isPart holds isCount sizeRead
    rw [copyValue]
    simp only [Copies]
    refine exec_ifNotNull_iff srcPart read holds fun ending τ => ?_
    constructor
    · rintro ⟨inside, ran, rfl⟩
      obtain ⟨sizeValue, length, sizeRead, isLength⟩ := exists_length isCount ran
      obtain rfl : size = some sizeValue := counted.symm.trans sizeRead
      obtain ⟨rfl, start, created, content, after, elements, stored, rfl⟩ :=
        (arrays isLength sizeRead).mp ran
      rw [left stored]
      exact ⟨rfl, _, ⟨sizeValue, start, rfl, length, content, isLength, created, rfl, elements⟩,
        stored⟩
    · rintro ⟨rfl, _, ⟨sizeValue, start, rfl, length, content, isLength, created, rfl, elements⟩,
        stored⟩
      exact ⟨τ.set rule.countName (.holds sizeValue), (arrays isLength counted).mpr
        ⟨rfl, start, created, content, τ, elements, stored, rfl⟩, left stored⟩

end Value

end Library

end InteropGlue
