import InteropGlue.Proofs.CSharp.Methods
import InteropGlue.Proofs.Glue.CopyingValues
import InteropGlue.Proofs.Glue.Routines
/-!
# Runs of the conversions

The conversions of a class call each other. A copy of a record converts the parts of its source, so
what holds of the conversions of all parts of a value can be shown for the value itself. In this way
it is seen that no conversion changes the key or its source.

## Main Definitions

* `Library.CopiesFields` — what copying the fields of a record one after the other stores.

## Main Results

* `Library.exec_copyFields_iff` — the body of a copy routine.
* `Library.quiet` — the conversions leave the key and the source as they are.
-/

namespace InteropGlue

open CSharp

namespace Library

variable {F : Framework} {lib : Library} {M : Machine F} {σ τ : State F}
  {key source part before after : Value F} {target : Target} {conversion : Conversion}
  {rule : CopyRule} {src dest : Expr} {ending : Ending F}

/-! ### Destinations that are no records -/

/-- Filling a place at which nothing can be stored changes nothing, if it ends at all. -/
theorem exec_fillClass_unstorable {type : TypeRef}
    (srcPart : PlaceOf "infoSrc" (IsIndexBelow rule.depth) src)
    (destPart : PlaceOf "infoDest" (IsIndexBelow rule.depth) dest)
    (copying : Copying σ key rule.depth) (read : σ.read src = some source)
    (noAssign : ∀ {type rest run}, exec M σ (.step (.assign dest (.create type [])) rest) ≠ some run)
    (unstorable : ∀ value, σ.store dest value = none) (quiet : M.Quiet key source)
    (ran : exec M σ (lib.fillClass rule type src dest) = some (ending, τ)) :
    ending = .next ∧ τ = σ := by
  have notNull : eval M σ (.compare .notEqual src .null) = some (.truth (!source.isNull), σ) := by
    rw [eval_isNotNull srcPart.isPlace, read]
    rfl
  rw [fillClass, Block.ifHolds, exec_guarded notNull] at ran
  by_cases isNull : source.isNull = true
  · simpa [isNull, exec_done_iff] using ran
  simp only [isNull, Bool.not_false, if_true, Option.bind_eq_some_iff, Prod.exists] at ran
  obtain ⟨inside, inner, guarded, continued⟩ := ran
  have unchanged : inside = .next ∧ inner = σ := by
    cases found : σ.read dest with
    | none =>
      rw [exec, eval_isNull destPart.isPlace, found] at guarded
      simp at guarded
    | some given =>
      have isNull : eval M σ (.compare .equal dest .null) = some (.truth given.isNull, σ) := by
        rw [eval_isNull destPart.isPlace, found]
        rfl
      rw [exec_guarded isNull] at guarded
      by_cases missing : given.isNull = true
      · simp only [missing, if_true, Option.bind_eq_some_iff, Prod.exists] at guarded
        obtain ⟨_, _, made, -⟩ := guarded
        exact absurd made noAssign
      · have input : Passing.byValue ≠ .out := by simp
        simp only [missing, Bool.false_eq_true, if_false, Block.ofSteps, List.foldr_cons,
          List.foldr_nil, exec_evaluate_iff, exec_done_iff] at guarded
        obtain ⟨value, _, evaluated, rfl, rfl⟩ := guarded
        obtain ⟨final, -, stored⟩ := (eval_callWithDest input copying.key srcPart read destPart
          found quiet.fill).mp ⟨value, evaluated⟩
        split at stored
        · exact ⟨rfl, stored⟩
        · rw [unstorable final] at stored
          exact absurd stored (by simp)
  obtain ⟨rfl, rfl⟩ := unchanged
  rw [State.leaving_of_absent fun _ absent => absent] at continued
  exact exec_done_iff.mp continued

/-- Copying to a place at which nothing can be stored changes nothing, if it ends at all. -/
theorem exec_copyValue_unstorable (booleans : M.QuietBooleans) {type : TypeRef}
    {count : Option Expr} (isPart : IsPart dest)
    (srcPart : PlaceOf "infoSrc" (IsIndexBelow rule.depth) src)
    (destPart : PlaceOf "infoDest" (IsIndexBelow rule.depth) dest)
    (copying : Copying σ key rule.depth) (read : σ.read src = some source)
    (unstorable : ∀ value, σ.store dest value = none) (quiet : M.QuietWithin key type source)
    (isCount : (count.getD (.member src "Length")).isPlace = true)
    (ran : exec M σ (lib.copyValue rule src dest count type) = some (ending, τ)) :
    ending = .next ∧ τ = σ := by
  -- No assignment to the destination ends.
  have noAssign : ∀ {σ' e rest run}, (∀ value middle, eval M σ' e = some (value, middle) →
      ∀ next, middle.store dest next = none) →
        exec M σ' (.step (.assign dest e) rest) ≠ some run := by
    intro σ' e rest run nowhere ran
    obtain ⟨value, middle, after, evaluated, assigned, -⟩ := exec_assign_iff.mp ran
    rw [isPart.assign, nowhere value middle evaluated value] at assigned
    exact absurd assigned (by simp)
  have notNull : eval M σ (.compare .notEqual src .null) = some (.truth (!source.isNull), σ) := by
    rw [eval_isNotNull srcPart.isPlace, read]
    rfl
  cases type with
  | named name =>
    have notConverted : exec M σ (.ofSteps [.assign dest (rule.convert src)]) ≠ some (ending, τ) :=
      noAssign fun value middle evaluated => by
        obtain ⟨-, rfl⟩ := (eval_convert copying.key srcPart read quiet).mp evaluated
        exact unstorable
    rw [copyValue] at ran
    split at ran
    · exact absurd ran notConverted
    · exact absurd ran notConverted
    · split at ran
      · refine exec_fillClass_unstorable srcPart destPart copying read (noAssign ?_) unstorable
          quiet ran
        intro value middle evaluated
        obtain ⟨-, rfl⟩ := eval_create_iff.mp evaluated
        exact unstorable
      · exact absurd ran notConverted
    · refine absurd ran (noAssign fun value middle evaluated => ?_)
      obtain ⟨-, rfl⟩ := (eval_convertBool srcPart read (booleans rule.conversion source)).mp evaluated
      exact unstorable
    · refine absurd ran (noAssign fun value middle evaluated => ?_)
      obtain ⟨-, rfl⟩ := (eval_place_iff srcPart.isPlace).mp evaluated
      exact unstorable
  | array element _ =>
    rw [copyValue, Block.ifHolds, exec_guarded notNull] at ran
    by_cases isNull : source.isNull = true
    · simpa [isNull, exec_done_iff] using ran
    · simp only [isNull, Bool.not_false, if_true, Option.bind_eq_some_iff, Prod.exists,
        exec_bind_iff] at ran
      obtain ⟨_, _, ⟨size, middle, evaluated, -, assigned⟩, -⟩ := ran
      obtain ⟨-, rfl⟩ := (eval_place_iff isCount).mp evaluated
      have countRead : (middle.set rule.countName (.holds size)).read (.name rule.countName) =
          some size := by
        rw [State.read_name, State.locals_set_self]
        rfl
      refine absurd assigned (noAssign fun value after created next => ?_)
      obtain ⟨-, rfl⟩ := (eval_createArray_iff (isPlace_name _) countRead).mp created
      have outside : rule.countName ≠ "infoDest" := count_ne _ (by decide)
      rw [destPart.store_set outside (not_isIndexBelow_count _ _), unstorable, Option.map_none]

/-! ### Fields -/

/-- What copying fields one after the other stores in a record, from the fields of a source. -/
def CopiesFields (lib : Library) (M : Machine F) (target : Target) (conversion : Conversion)
    (key source : Value F) : List Field → (String → Value F) → (String → Value F) → Prop
  | [], before, after => after = before
  | field :: rest, before, after =>
    ∃ part value, source.member field.name = some part ∧
      lib.Copies M { target, conversion, inPlace := true, depth := 0 } key field.type
          ((field.countField?.map source.member).getD (part.member "Length")) part
          (before field.name) value ∧
        lib.CopiesFields M target conversion key source rest
          (Function.update before field.name value) after

/-- The parts of a value are kept by conversions. -/
def QuietParts (M : Machine F) (key source : Value F) : Prop :=
  ∀ name part, source.member name = some part → ∀ type, M.QuietWithin key type part

/-- The source of a copy of a field is a part of the source of the record. -/
theorem srcPart_field (name : String) :
    PlaceOf "infoSrc" (IsIndexBelow 0) (.member (.name "infoSrc") name) := .member .name

/-- The destination of a copy of a field is a part of the destination of the record. -/
theorem destPart_field (name : String) :
    PlaceOf "infoDest" (IsIndexBelow 0) (.member (.name "infoDest") name) := .member .name

/-- The count of a field is a field of the source, or the length of the array in the field. -/
theorem read_countField (field : Field) (read : σ.read (.name "infoSrc") = some source)
    (isPart : source.member field.name = some part) :
    σ.read ((field.countField?.map (Expr.member (.name "infoSrc"))).getD
        (.member (.member (.name "infoSrc") field.name) "Length")) =
      (field.countField?.map source.member).getD (part.member "Length") := by
  cases field.countField? with
  | some count =>
    simp only [Option.map_some, Option.getD_some, State.read_member, read, Option.bind_some]
  | none =>
    simp only [Option.map_none, Option.getD_none, State.read_member, read, Option.bind_some,
      isPart]

/-- Copying one field replaces it in the record at the destination. -/
theorem exec_copyField_iff (booleans : M.QuietBooleans) {field : Field} {type : String}
    {identity : Identity} {content : String → Value F} (copying : Copying σ key 0)
    (read : σ.read (.name "infoSrc") = some source) (quiet : QuietParts M key source)
    (holds : σ.Holds (.name "infoDest") (.record type identity content)) :
    exec M σ (lib.copyField target conversion field) = some (ending, τ) ↔
      ending = .next ∧ ∃ part value, source.member field.name = some part ∧
        lib.Copies M { target, conversion, inPlace := true, depth := 0 } key field.type
            ((field.countField?.map source.member).getD (part.member "Length")) part
            (content field.name) value ∧
          σ.store (.name "infoDest")
            (.record type identity (Function.update content field.name value)) = some τ := by
  have isCount : ((field.countField?.map (Expr.member (.name "infoSrc"))).getD
      (.member (.member (.name "infoSrc") field.name) "Length")).isPlace = true := by
    cases field.countField? <;> rfl
  have isPart : IsPart (.member (.name "infoDest") field.name) := by simp [IsPart]
  have stores : ∀ value, σ.store (.member (.name "infoDest") field.name) value =
      σ.store (.name "infoDest")
        (.record type identity (Function.update content field.name value)) := by
    intro value
    simp only [State.store, holds.read, Option.bind_eq_bind, Option.bind_some, Value.withMember]
  have copies : ∀ {part}, source.member field.name = some part → (_ ↔ _) := fun {part} found =>
    @exec_copyValue_iff F lib M σ τ key part (content field.name)
      { target, conversion, inPlace := true, depth := 0 } _ _ ending booleans field.type _ _ isPart
      (srcPart_field field.name) (destPart_field field.name) copying
      (State.read_member_eq_some_iff.mpr ⟨source, read, found⟩) holds.member
      (quiet field.name part found field.type) isCount (read_countField field read found)
  rw [copyField]
  constructor
  · intro ran
    obtain ⟨part, partRead⟩ := exists_source rfl ran
    obtain ⟨whole, wholeRead, found⟩ := State.read_member_eq_some_iff.mp partRead
    obtain rfl : source = whole := Option.some.inj (read.symm.trans wholeRead)
    obtain ⟨rfl, value, copied, stored⟩ := (copies found).mp ran
    exact ⟨rfl, part, value, found, copied, (stores value).symm.trans stored⟩
  · rintro ⟨rfl, part, value, found, copied, stored⟩
    exact (copies found).mpr ⟨rfl, value, copied, (stores value).trans stored⟩

/-- Copying fields one after the other fills the record at the destination. -/
theorem exec_copyFields_iff (booleans : M.QuietBooleans) {fields : List Field} {type : String}
    {identity : Identity} {content : String → Value F} (copying : Copying σ key 0)
    (read : σ.read (.name "infoSrc") = some source) (quiet : QuietParts M key source)
    (holds : σ.Holds (.name "infoDest") (.record type identity content)) :
    exec M σ (.concat (fields.map (lib.copyField target conversion))) = some (ending, τ) ↔
      ending = .next ∧ ∃ filled, lib.CopiesFields M target conversion key source fields content filled ∧
        σ.store (.name "infoDest") (.record type identity filled) = some τ := by
  induction fields generalizing σ content with
  | nil =>
    simp only [List.map_nil, Block.concat, List.foldr_nil, exec_done_iff, CopiesFields,
      exists_eq_left, holds.store, Option.some.injEq]
    exact and_congr_right fun _ => eq_comm
  | cons field rest ih =>
    have dest : PlaceOf "infoDest" (IsIndexBelow 0) (.name "infoDest") := .name
    have src : PlaceOf "infoSrc" (IsIndexBelow 0) (.name "infoSrc") := .name
    -- The state after the first field is one in which the others are copied.
    have later : ∀ {σ' value}, σ.store (.name "infoDest")
        (.record type identity (Function.update content field.name value)) = some σ' → (_ ↔ _) :=
      fun {σ' value} stored => @ih σ' (Function.update content field.name value)
        (copying.store dest stored)
        ((src.read_of_store dest (by decide) (not_isIndexBelow_infoDest _) stored).trans read)
        (dest.holds_store (not_isIndexBelow_infoDest _) stored)
    rw [List.map_cons, Block.concat, List.foldr_cons, ← Block.concat, exec_append,
      Option.bind_eq_some_iff]
    constructor
    · rintro ⟨⟨_, σ'⟩, ran, continued⟩
      obtain ⟨rfl, part, value, found, copied, stored⟩ :=
        (exec_copyField_iff booleans copying read quiet holds).mp ran
      obtain ⟨rfl, filled, copiedRest, storedRest⟩ := (later stored).mp continued
      rw [dest.store_store (not_isIndexBelow_infoDest _) stored] at storedRest
      exact ⟨rfl, filled, ⟨part, value, found, copied, copiedRest⟩, storedRest⟩
    · rintro ⟨rfl, filled, ⟨part, value, found, copied, copiedRest⟩, storedRest⟩
      obtain ⟨σ', stored⟩ := dest.exists_store holds.store
        (.record type identity (Function.update content field.name value))
      refine ⟨(.next, σ'), (exec_copyField_iff booleans copying read quiet holds).mpr
        ⟨rfl, part, value, found, copied, stored⟩, (later stored).mpr ⟨rfl, filled, copiedRest, ?_⟩⟩
      rw [dest.store_store (not_isIndexBelow_infoDest _) stored, storedRest]

/-! ### Routines of a record -/

/-- The state in which a copy of a record starts. -/
def copyStart (passing : Passing) (sourceType destType : String) (key source before : Value F) :
    State F :=
  .start [machineParameter, plainParameter .byValue sourceType "infoSrc",
    plainParameter passing destType "infoDest"] [some key, some source, some before]

section CopyStart

variable {passing : Passing} {sourceType destType : String}

theorem locals_copyStart : (copyStart passing sourceType destType key source before).locals =
    Function.update
      (Function.update (Function.update (fun _ => .absent) "infoDest" (.holds before)) "infoSrc"
        (.holds source))
      machineParam (.holds key) := rfl

theorem copyStart_copying :
    Copying (copyStart passing sourceType destType key source before) key 0 := by
  have absent : ∀ {name}, name ≠ machineParam → name ≠ "infoSrc" → name ≠ "infoDest" →
      (copyStart passing sourceType destType key source before).locals name = .absent := by
    intro name notMachine notSource notDest
    simp [locals_copyStart, notMachine, notSource, notDest]
  refine ⟨by simp [locals_copyStart], fun level _ => ?_, fun level _ => ?_⟩
  · exact absent (count_ne level (by decide)) (count_ne level (by decide))
      (count_ne level (by decide))
  · exact absent (index_ne_machineParam level) (index_ne_infoSrc level) (index_ne_infoDest level)

theorem copyStart_read_source :
    (copyStart passing sourceType destType key source before).read (.name "infoSrc") =
      some source := by
  simp [State.read_name, locals_copyStart, machineParam, Slot.value?]

theorem copyStart_holds_dest :
    (copyStart passing sourceType destType key source before).Holds (.name "infoDest") before := by
  have found : (copyStart passing sourceType destType key source before).locals "infoDest" =
      .holds before := by
    simp [locals_copyStart, machineParam]
  constructor
  · rw [State.read_name, found]
    rfl
  · rw [State.store, found, State.set_self found]

/-- The values of the parameters of a copy that has stored at its destination only. -/
theorem copyStart_finals {finals : List (Value F)}
    (stored : (copyStart passing sourceType destType key source before).store (.name "infoDest")
      after = some τ) :
    τ.calls = [] ∧
      (List.Forall₂ (fun p final => (τ.locals p.name).value? = some final)
          [machineParameter, plainParameter .byValue sourceType "infoSrc",
            plainParameter passing destType "infoDest"] finals ↔
        finals = [key, source, after]) := by
  obtain rfl : (copyStart passing sourceType destType key source before).set "infoDest"
      (.holds after) = τ := by
    rw [State.store] at stored
    split at stored
    · simp at stored
    · exact Option.some.inj stored
  refine ⟨State.calls_start, ?_⟩
  simp [List.forall₂_cons_left_iff, List.forall₂_nil_left_iff, State.set, locals_copyStart,
    machineParameter, plainParameter, machineParam, Slot.value?, eq_comm]

end CopyStart

/-- A copy of a record runs from the state in which it starts. -/
theorem run_copyRoutine_iff_exec {isClass : Bool} {record : Record} {outcome : Outcome F} :
    M.run? (lib.copyRoutine target conversion isClass record)
        [some key, some source, some before] = some outcome ↔
      let passing := if isClass then .byValue else .ref
      let sourceType := lib.typeName (conversion.sourceMode target) (.named record.name)
      let destType := lib.typeName (conversion.destMode target) (.named record.name)
      ∃ ending τ,
        exec M (copyStart passing sourceType destType key source before)
            (.concat (record.fields.map (lib.copyField target conversion))) = some (ending, τ) ∧
          ending.result? "void" = some outcome.result ∧
          List.Forall₂ (fun p final => (τ.locals p.name).value? = some final)
              [machineParameter, plainParameter .byValue sourceType "infoSrc",
                plainParameter passing destType "infoDest"] outcome.finals ∧
            outcome.calls = τ.calls := by
  rw [copyRoutine, Machine.run?_iff (by simp [machineParameter, plainParameter, machineParam])]
  refine and_iff_right ?_
  cases isClass <;> simp [Parameter.Admits, machineParameter, plainParameter]

/-- A copy of a record fills its destination and does nothing else. -/
theorem run_copyRoutine_iff (booleans : M.QuietBooleans) (quiet : QuietParts M key source)
    {isClass : Bool} {record : Record} {type : String} {identity : Identity}
    {content : String → Value F} {outcome : Outcome F} :
    M.run? (lib.copyRoutine target conversion isClass record)
        [some key, some source, some (.record type identity content)] = some outcome ↔
      ∃ filled, lib.CopiesFields M target conversion key source record.fields content filled ∧
        outcome = ⟨[], [key, source, .record type identity filled], .nothing⟩ := by
  have fields : ∀ {passing sourceType destType ending τ}, _ ↔ _ :=
    fun {passing sourceType destType ending τ} => @exec_copyFields_iff F lib M
      (copyStart passing sourceType destType key source (.record type identity content)) τ key source
      target conversion ending booleans record.fields type identity content copyStart_copying
      copyStart_read_source quiet copyStart_holds_dest
  rw [run_copyRoutine_iff_exec]
  simp only [fields]
  constructor
  · rintro ⟨_, τ, ⟨rfl, filled, copied, stored⟩, ended, left, called⟩
    obtain ⟨noCalls, finals⟩ := copyStart_finals stored
    refine ⟨filled, copied, ?_⟩
    rw [finals] at left
    rw [noCalls] at called
    rcases outcome with ⟨calls, finals, result⟩
    simp only [Ending.result?, ↓reduceIte, Option.some.injEq] at ended left called
    rw [← ended, left, called]
  · rintro ⟨filled, copied, rfl⟩
    obtain ⟨τ, stored⟩ := (@PlaceOf.name "infoDest" fun _ => False).exists_store
      copyStart_holds_dest.store (.record type identity filled)
    obtain ⟨noCalls, finals⟩ := copyStart_finals stored
    exact ⟨_, τ, ⟨rfl, filled, copied, stored⟩, rfl, finals.mpr rfl, noCalls.symm⟩

/-- A copy into something that is no record leaves it as it was, if it ends at all. -/
theorem finals_of_unstorable (booleans : M.QuietBooleans) (quiet : QuietParts M key source)
    {isClass : Bool} {record : Record} {outcome : Outcome F}
    (unstorable : ∀ name value, before.withMember name value = none)
    (ran : M.run? (lib.copyRoutine target conversion isClass record)
      [some key, some source, some before] = some outcome) :
    outcome.finals = [key, source, before] := by
  obtain ⟨ending, τ, executed, -, left, -⟩ := run_copyRoutine_iff_exec.mp ran
  -- The state in which the copy starts is kept by each field.
  obtain ⟨start, isStart⟩ : ∃ start, start = copyStart (if isClass then .byValue else .ref)
      (lib.typeName (conversion.sourceMode target) (.named record.name))
      (lib.typeName (conversion.destMode target) (.named record.name)) key source before := ⟨_, rfl⟩
  have copying : Copying start key 0 := isStart ▸ copyStart_copying
  have sourceRead : start.read (.name "infoSrc") = some source := isStart ▸ copyStart_read_source
  have destRead : start.read (.name "infoDest") = some before := isStart ▸ copyStart_holds_dest.read
  rw [← isStart] at executed
  have unchanged : τ = start := by
    clear ran left isStart
    generalize record.fields = fields at executed
    induction fields with
    | nil => exact (exec_done_iff.mp executed).2
    | cons field rest ih =>
      rw [List.map_cons, Block.concat, List.foldr_cons, ← Block.concat, exec_append,
        Option.bind_eq_some_iff] at executed
      obtain ⟨⟨inside, σ'⟩, first, continued⟩ := executed
      obtain ⟨part, partRead⟩ := exists_source rfl first
      obtain ⟨whole, wholeRead, found⟩ := State.read_member_eq_some_iff.mp partRead
      obtain rfl : source = whole := Option.some.inj (sourceRead.symm.trans wholeRead)
      have nowhere : ∀ value, start.store (.member (.name "infoDest") field.name) value = none := by
        intro value
        simp only [State.store, destRead, Option.bind_eq_bind, Option.bind_some, unstorable,
          Option.bind_none]
      have isCount : ((field.countField?.map (Expr.member (.name "infoSrc"))).getD
          (.member (.member (.name "infoSrc") field.name) "Length")).isPlace = true := by
        cases field.countField? <;> rfl
      obtain ⟨rfl, rfl⟩ := exec_copyValue_unstorable booleans (by simp [IsPart])
        (srcPart_field field.name) (destPart_field field.name) copying partRead nowhere
        (quiet field.name part found field.type) isCount first
      exact ih continued
  rw [unchanged, isStart] at left
  exact (copyStart_finals copyStart_holds_dest.store).2.mp left

/-- A copy of a record leaves the key and its source as they are. -/
theorem finals_of_copyRoutine (booleans : M.QuietBooleans) (quiet : QuietParts M key source)
    {isClass : Bool} {record : Record} {outcome : Outcome F}
    (ran : M.run? (lib.copyRoutine target conversion isClass record)
      [some key, some source, some before] = some outcome) :
    ∃ final, outcome.finals = [key, source, final] := by
  cases before with
  | record type identity content =>
    obtain ⟨filled, -, rfl⟩ := (run_copyRoutine_iff booleans quiet).mp ran
    exact ⟨_, rfl⟩
  | _ => exact ⟨_, finals_of_unstorable booleans quiet (fun _ _ => rfl) ran⟩

end Library

end InteropGlue
