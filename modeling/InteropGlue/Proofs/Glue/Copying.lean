import InteropGlue.Proofs.CSharp.Steps
/-!
# Copying one value

The statements that copy a value are made by recursion over its type. Whatever place the value comes
from and goes to, running them stores one value there, and which one it is depends on the value at
the source and the value that was there before.

## Main Definitions

* `Machine.Converts`, `Machine.Fills` — what the conversions of a class do to values.
* `Machine.Quiet` — the conversions leave the key and the source as they are.
* `Library.Copies` — the value that copying stores.

## Main Results

* `Library.exec_copyValue_iff` — the statements that copy a value store the one of `Copies`.

## Design Notes

Nothing is said of values that have other types than declared: the statements are the same for them,
and so is what they store. Types come in where a call has to find its conversion.
-/

namespace InteropGlue

open CSharp

variable {F : Framework}

/-! ### Names of locals -/

/-- A numbered local is known by its number. -/
theorem numbered_injective {stem : String} {level other : Nat}
    (same : stem ++ toString level = stem ++ toString other) : level = other := by
  have digits : level.repr = other.repr := by simpa [toString] using same
  have values := congrArg (fun text => Nat.ofDigitChars 10 text.toList 0) digits
  simpa using values

theorem index_ne_count (level other : Nat) : "i" ++ toString level ≠ "count" ++ toString other := by
  intro same
  have heads := congrArg (·.toList.head?) same
  simp at heads

/-- A name that starts like an index but goes on with a letter is none. -/
theorem index_ne {name : String} {second : Char} {rest : List Char} (level : Nat)
    (spelled : name.toList = 'i' :: second :: rest) (notDigit : second.isDigit = false) :
    "i" ++ toString level ≠ name := by
  intro same
  have digits : Nat.toDigits 10 level = second :: rest := by
    simpa [spelled] using congrArg (·.toList) same
  have isDigit : second.isDigit = true :=
    Nat.isDigit_of_mem_toDigits (by decide) (by decide)
      (show second ∈ Nat.toDigits 10 level by rw [digits]; exact List.mem_cons_self)
  rw [notDigit] at isDigit
  exact Bool.false_ne_true isDigit

theorem index_ne_infoSrc (level : Nat) : "i" ++ toString level ≠ "infoSrc" :=
  index_ne level (show "infoSrc".toList = 'i' :: 'n' :: "foSrc".toList by decide) (by decide)

theorem index_ne_infoDest (level : Nat) : "i" ++ toString level ≠ "infoDest" :=
  index_ne level (show "infoDest".toList = 'i' :: 'n' :: "foDest".toList by decide) (by decide)

theorem index_ne_machineParam (level : Nat) : "i" ++ toString level ≠ machineParam := by
  intro same
  have heads := congrArg (·.toList.head?) same
  simp [machineParam] at heads

theorem count_ne {name : String} (level : Nat) (heads : name.toList.head? ≠ some 'c') :
    "count" ++ toString level ≠ name := by
  rintro rfl
  simp at heads

/-- The name is the index of a loop around a depth. -/
def IsIndexBelow (depth : Nat) (name : String) : Prop := ∃ level < depth, name = "i" ++ toString level

theorem IsIndexBelow.mono {depth : Nat} {name : String} (isIndex : IsIndexBelow depth name) :
    IsIndexBelow (depth + 1) name := by
  obtain ⟨level, below, rfl⟩ := isIndex
  exact ⟨level, by omega, rfl⟩

theorem not_isIndexBelow_infoDest (depth : Nat) : ¬ IsIndexBelow depth "infoDest" := by
  rintro ⟨level, -, same⟩
  exact index_ne_infoDest level same.symm

theorem not_isIndexBelow_count (depth level : Nat) :
    ¬ IsIndexBelow depth ("count" ++ toString level) := by
  rintro ⟨other, -, same⟩
  exact index_ne_count other level same.symm

theorem not_isIndexBelow_self (depth : Nat) : ¬ IsIndexBelow depth ("i" ++ toString depth) := by
  rintro ⟨level, below, same⟩
  exact absurd (numbered_injective same) (by omega)

/-! ### What conversions do -/

namespace CSharp.Machine

variable (M : Machine F)

/-- A conversion gives a value for another. -/
def Converts (routine : String) (key source converted : Value F) : Prop :=
  M.invoke? routine [(.byValue, some key), (.byValue, some source)] =
    some ([key, source], converted)

/-- A conversion fills an instance from another. -/
def Fills (routine : String) (passing : Passing) (key source before after : Value F) : Prop :=
  ∃ result, M.invoke? routine
    [(.byValue, some key), (.byValue, some source), (passing, some before)] =
      some ([key, source, after], result)

/-- Conversions called with the key leave it and a source as they are. -/
def Quiet (key source : Value F) : Prop :=
  ∀ routine rest finals result,
    M.invoke? routine ((.byValue, some key) :: (.byValue, some source) :: rest) =
      some (finals, result) →
      ∃ others, finals = key :: source :: others ∧ others.length = rest.length

variable {M} in
theorem Quiet.fill {key source given result : Value F} {routine : String} {passing : Passing}
    {finals : List (Value F)} (quiet : M.Quiet key source)
    (invoked : M.invoke? routine
      [(.byValue, some key), (.byValue, some source), (passing, some given)] =
        some (finals, result)) :
    ∃ final, finals = [key, source, final] := by
  obtain ⟨others, rfl, one⟩ := quiet routine _ finals result invoked
  obtain ⟨final, rfl⟩ := List.length_eq_one_iff.mp one
  exact ⟨final, rfl⟩

/-- The conversions of booleans leave their source as it is. -/
def QuietBooleans : Prop :=
  ∀ (conversion : Conversion) (source : Value F) finals result,
    M.invoke? conversion.boolRoutine [(.byValue, some source)] = some (finals, result) →
      finals = [source]

/-- Conversions leave the parts of a value of a type as they are. -/
def QuietWithin (key : Value F) : TypeRef → Value F → Prop
  | .named _, source => M.Quiet key source
  | .array element _, source =>
    ∀ position part, source.element position = some part → QuietWithin key element part

end CSharp.Machine

namespace Library

variable (lib : Library) (M : Machine F)

/-- The value that copying stores at a place, by the value of the source and the value that the
place held. `size` is the count of an array. -/
def Copies (rule : CopyRule) (key : Value F) :
    TypeRef → Option (Value F) → Value F → Value F → Value F → Prop
  | .named name, _, source, before, after =>
    match lib.kindOfName name with
    | .structType | .handle => M.Converts rule.conversion.valueRoutine key source after
    | .classType =>
      if rule.inPlace then
        if source.isNull then after = before
        else
          ∃ start final,
            (if before.isNull then
              M.construct? (lib.typeName (rule.conversion.destMode rule.target) (.named name)) =
                some start
            else start = before) ∧
              M.Fills rule.conversion.copyRoutine .byValue key source start final ∧
                after = start.afterCall final
      else M.Converts rule.conversion.valueRoutine key source after
    | .bool =>
      M.invoke? rule.conversion.boolRoutine [(.byValue, some source)] = some ([source], after)
    | _ => after = source
  | .array element _, size, source, before, after =>
    if source.isNull then after = before
    else
      ∃ sizeValue start, size = some sizeValue ∧
        ∃ (length : Nat) (content : Fin length → Value F),
          let elementType := lib.typeName (rule.conversion.destMode rule.target) element
          sizeValue.index? = some length ∧
            M.createArray? elementType sizeValue =
              some (.array elementType .fresh length fun _ => start) ∧
            after = .array elementType .fresh length content ∧
              ∀ position : Fin length, ∃ part, source.element position = some part ∧
                Copies rule.forElements key element (part.member "Length") part start
                  (content position)

end Library

/-! ### The state of a copy -/

/-- The state of a running copy inside a number of array levels: the key is at hand, and the locals
of further levels are not declared yet. -/
structure Copying (σ : State F) (key : Value F) (depth : Nat) : Prop where
  key : σ.locals machineParam = .holds key
  count_absent : ∀ level, depth ≤ level → σ.locals ("count" ++ toString level) = .absent
  index_absent : ∀ level, depth ≤ level → σ.locals ("i" ++ toString level) = .absent

/-! ### Calls of conversions -/

section Calls

variable {M : Machine F} {σ τ : State F} {key source given value : Value F} {routine : String}
  {root other : String} {indices : String → Prop} {src dest : Expr}

theorem gives_value {e : Expr} (isPlace : e.isPlace = true) (read : σ.read e = some value)
    {arg : Passing × Option (Value F)} :
    Arg.Gives M σ (.value e) arg ↔ arg = (.byValue, some value) := by
  constructor
  · rintro ⟨found, evaluated, rfl⟩
    have same : some value = some found := read.symm.trans ((eval_place_iff isPlace).mp evaluated).1
    rw [same]
  · rintro rfl
    exact ⟨value, (eval_place_iff isPlace).mpr ⟨read, rfl⟩, rfl⟩

theorem gives_pass {passing : Passing} (input : passing ≠ .out) {e : Expr}
    (isPlace : e.isPlace = true) (read : σ.read e = some value)
    {arg : Passing × Option (Value F)} :
    Arg.Gives M σ (.pass passing e) arg ↔ arg = (passing, some value) := by
  cases passing with
  | byValue => exact gives_value isPlace read
  | out => exact absurd rfl input
  | ref =>
    constructor
    · rintro ⟨found, again, rfl⟩
      rw [read] at again
      rw [again]
    · rintro rfl
      exact ⟨value, read, rfl⟩

theorem read_machine (keyed : σ.locals machineParam = .holds key) :
    σ.read machineExpr = some key := by
  rw [machineExpr, State.read_name, keyed]
  rfl

theorem machine_place : PlaceOf machineParam indices machineExpr := .name

/-- A conversion called with a place gives the converted value of what is there. -/
theorem eval_convert (keyed : σ.locals machineParam = .holds key) (part : PlaceOf root indices src)
    (read : σ.read src = some source) (quiet : M.Quiet key source) :
    eval M σ (.callOwn routine [machineExpr, src]) = some (value, τ) ↔
      M.Converts routine key source value ∧ τ = σ := by
  have machineRead := read_machine keyed
  have still : ∀ arg ∈ [Arg.value machineExpr, .value src], arg.expr.IsStill M σ := by
    simp only [List.mem_cons, List.not_mem_nil, or_false, forall_eq_or_imp, forall_eq]
    exact ⟨.of_place rfl, .of_place part.isPlace⟩
  have evaluated : ∀ given middle,
      evalArgs M σ [.value machineExpr, .value src] = some (given, middle) ↔
        given = [(.byValue, some key), (.byValue, some source)] ∧ middle = σ := by
    intro given middle
    rw [evalArgs_iff still]
    simp only [List.forall₂_cons_left_iff, List.forall₂_nil_left_iff, gives_value rfl machineRead,
      gives_value part.isPlace read]
    simp
  have returned : σ.passBack [.value machineExpr, .value src] [key, source] = some σ := by
    rw [passBack_value (@machine_place indices) machineRead, passBack_value part read,
      State.passBack]
  rw [Expr.callOwn, List.map_cons, List.map_cons, List.map_nil, eval_call_iff]
  simp only [evaluated]
  constructor
  · rintro ⟨_, _, finals, ⟨rfl, rfl⟩, invoked, passed⟩
    obtain ⟨others, rfl, none⟩ := quiet routine [] finals value invoked
    obtain rfl := List.length_eq_zero_iff.mp none
    rw [returned] at passed
    exact ⟨invoked, (Option.some.inj passed).symm⟩
  · rintro ⟨converts, rfl⟩
    exact ⟨_, _, _, ⟨rfl, rfl⟩, converts, returned⟩

/-- A conversion called with two places leaves a value at the second, if that is shared with it. -/
theorem eval_callWithDest {passing : Passing} (input : passing ≠ .out)
    (keyed : σ.locals machineParam = .holds key) (part : PlaceOf root indices src)
    (read : σ.read src = some source) (destPart : PlaceOf other indices dest)
    (destRead : σ.read dest = some given)
    (kept : ∀ {finals result}, M.invoke? routine
      [(.byValue, some key), (.byValue, some source), (passing, some given)] =
        some (finals, result) → ∃ final, finals = [key, source, final]) :
    (∃ value, eval M σ (.call (.name routine)
      [.value machineExpr, .value src, .pass passing dest]) = some (value, τ)) ↔
      ∃ final, M.Fills routine passing key source given final ∧
        (if passing = .byValue ∧ final.isShared = false then τ = σ
        else σ.store dest final = some τ) := by
  have machineRead := read_machine keyed
  have still : ∀ arg ∈ [Arg.value machineExpr, .value src, .pass passing dest],
      arg.expr.IsStill M σ := by
    simp only [List.mem_cons, List.not_mem_nil, or_false, forall_eq_or_imp, forall_eq]
    exact ⟨.of_place rfl, .of_place part.isPlace, .of_place destPart.isPlace⟩
  have evaluated : ∀ args middle,
      evalArgs M σ [.value machineExpr, .value src, .pass passing dest] = some (args, middle) ↔
        args = [(.byValue, some key), (.byValue, some source), (passing, some given)] ∧
          middle = σ := by
    intro args middle
    rw [evalArgs_iff still]
    simp only [List.forall₂_cons_left_iff, List.forall₂_nil_left_iff, gives_value rfl machineRead,
      gives_value part.isPlace read, gives_pass input destPart.isPlace destRead]
    simp
  have returned : ∀ final,
      σ.passBack [.value machineExpr, .value src, .pass passing dest] [key, source, final] =
        some τ ↔
        if passing = .byValue ∧ final.isShared = false then τ = σ
        else σ.store dest final = some τ := by
    intro final
    rw [passBack_value (@machine_place indices) machineRead, passBack_value part read,
      State.passBack]
    cases final.isShared <;> by_cases byValue : passing = .byValue <;>
      simp [byValue, destPart.isPlace, State.passBack, eq_comm]
  simp only [eval_call_iff, evaluated]
  constructor
  · rintro ⟨value, _, _, finals, ⟨rfl, rfl⟩, invoked, passed⟩
    obtain ⟨final, rfl⟩ := kept invoked
    exact ⟨final, ⟨value, invoked⟩, (returned final).mp passed⟩
  · rintro ⟨final, ⟨value, invoked⟩, stored⟩
    exact ⟨value, _, _, _, ⟨rfl, rfl⟩, invoked, (returned final).mpr stored⟩

/-- A conversion called with two places fills what is at the second. -/
theorem eval_fill {passing : Passing} (input : passing ≠ .out)
    (keyed : σ.locals machineParam = .holds key) (part : PlaceOf root indices src)
    (read : σ.read src = some source) (destPart : PlaceOf other indices dest)
    (holds : σ.Holds dest given)
    (kept : ∀ {finals result}, M.invoke? routine
      [(.byValue, some key), (.byValue, some source), (passing, some given)] =
        some (finals, result) → ∃ final, finals = [key, source, final]) :
    (∃ value, eval M σ (.call (.name routine)
      [.value machineExpr, .value src, .pass passing dest]) = some (value, τ)) ↔
      ∃ final, M.Fills routine passing key source given final ∧
        σ.store dest (if passing = .byValue then given.afterCall final else final) = some τ := by
  rw [eval_callWithDest input keyed part read destPart holds.read kept]
  refine exists_congr fun final => and_congr_right fun _ => ?_
  rw [Value.afterCall]
  cases final.isShared <;> by_cases byValue : passing = .byValue <;>
    simp [byValue, holds.store, eq_comm]

/-- The conversion of a boolean called with a place. -/
theorem eval_convertBool (part : PlaceOf root indices src) (read : σ.read src = some source)
    (keeps : ∀ finals result, M.invoke? routine [(.byValue, some source)] = some (finals, result) →
      finals = [source]) :
    eval M σ (.callOwn routine [src]) = some (value, τ) ↔
      M.invoke? routine [(.byValue, some source)] = some ([source], value) ∧ τ = σ := by
  have still : ∀ arg ∈ [Arg.value src], arg.expr.IsStill M σ := by
    simp only [List.mem_cons, List.not_mem_nil, or_false, forall_eq]
    exact .of_place part.isPlace
  have evaluated : ∀ given middle, evalArgs M σ [.value src] = some (given, middle) ↔
      given = [(.byValue, some source)] ∧ middle = σ := by
    intro given middle
    rw [evalArgs_iff still]
    simp only [List.forall₂_cons_left_iff, List.forall₂_nil_left_iff,
      gives_value part.isPlace read]
    simp
  have returned : σ.passBack [.value src] [source] = some σ := by
    rw [passBack_value part read, State.passBack]
  rw [Expr.callOwn, List.map_cons, List.map_nil, eval_call_iff]
  simp only [evaluated]
  constructor
  · rintro ⟨_, _, finals, ⟨rfl, rfl⟩, invoked, passed⟩
    obtain rfl := keeps finals value invoked
    rw [returned] at passed
    exact ⟨invoked, (Option.some.inj passed).symm⟩
  · rintro ⟨invoked, rfl⟩
    exact ⟨_, _, _, ⟨rfl, rfl⟩, invoked, returned⟩

end Calls

/-! ### The state of a loop -/

namespace CopyRule

variable (rule : CopyRule)

/-- The state of a loop over the elements of an array: the count and the index are declared. -/
def inLoop (σ : State F) (size : Value F) (position : Nat) : State F :=
  (σ.set rule.countName (.holds size)).set rule.indexName (.holds (.number "int" position))

variable {rule} {σ τ : State F} {size key value : Value F} {position : Nat} {place : Expr}
  {root : String}

theorem read_inLoop (part : PlaceOf root (IsIndexBelow rule.depth) place)
    (notIndex : rule.indexName ≠ root) (notCount : rule.countName ≠ root) :
    (rule.inLoop σ size position).read place = σ.read place := by
  rw [inLoop, part.read_set notIndex (not_isIndexBelow_self _),
    part.read_set notCount (not_isIndexBelow_count _ _)]

theorem store_inLoop (part : PlaceOf root (IsIndexBelow rule.depth) place)
    (notIndex : rule.indexName ≠ root) (notCount : rule.countName ≠ root) :
    (rule.inLoop σ size position).store place value =
      (σ.store place value).map (rule.inLoop · size position) := by
  rw [inLoop, part.store_set notIndex (not_isIndexBelow_self _),
    part.store_set notCount (not_isIndexBelow_count _ _), Option.map_map]
  rfl

theorem index_inLoop :
    (rule.inLoop σ size position).read (.name rule.indexName) =
      some (.number "int" position) := by
  rw [inLoop, State.read_name, State.locals_set_self]
  rfl

theorem store_index_inLoop (next : Nat) :
    (rule.inLoop σ size position).store (.name rule.indexName) (.number "int" (next + 1)) =
      some (rule.inLoop σ size (next + 1)) := by
  rw [State.store, inLoop, State.locals_set_self, State.set_set]
  rfl

theorem count_inLoop :
    (rule.inLoop σ size position).read (.name rule.countName) = some size := by
  have different : rule.countName ≠ rule.indexName := (index_ne_count _ _).symm
  rw [inLoop, State.read_name, State.locals_set_of_ne different, State.locals_set_self]
  rfl

end CopyRule

namespace Copying

variable {σ τ : State F} {key value size : Value F} {place : Expr} {rule : CopyRule}

/-- Storing at the destination keeps the state of a copy. -/
theorem store {depth : Nat} {indices : String → Prop} (copying : Copying σ key depth)
    (part : PlaceOf "infoDest" indices place) (stored : σ.store place value = some τ) :
    Copying τ key depth := by
  obtain ⟨-, content, rfl⟩ := part.store_eq_set stored
  refine ⟨?_, fun level deeper => ?_, fun level deeper => ?_⟩
  · rw [State.locals_set_of_ne (by decide)]
    exact copying.key
  · rw [State.locals_set_of_ne (count_ne level (by decide))]
    exact copying.count_absent level deeper
  · rw [State.locals_set_of_ne (index_ne_infoDest level)]
    exact copying.index_absent level deeper

/-- A loop goes one level deeper. -/
theorem inLoop (copying : Copying σ key rule.depth) (position : Nat) :
    Copying (rule.inLoop σ size position) key (rule.depth + 1) := by
  have unchanged : ∀ name, name ≠ rule.indexName → name ≠ rule.countName →
      (rule.inLoop σ size position).locals name = σ.locals name := by
    intro name notIndex notCount
    rw [CopyRule.inLoop, State.locals_set_of_ne notIndex, State.locals_set_of_ne notCount]
  refine ⟨?_, fun level deeper => ?_, fun level deeper => ?_⟩
  · rw [unchanged _ (index_ne_machineParam _).symm (count_ne _ (by decide)).symm]
    exact copying.key
  · rw [unchanged _ (index_ne_count _ _).symm fun same => by
      have := numbered_injective same
      omega]
    exact copying.count_absent level (by omega)
  · rw [unchanged _ (fun same => by
      have := numbered_injective same
      omega) (index_ne_count _ _)]
    exact copying.index_absent level (by omega)

end Copying

end InteropGlue
