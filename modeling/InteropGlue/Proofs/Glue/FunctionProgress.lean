import InteropGlue.Proofs.Glue.FunctionMeaning
import InteropGlue.Proofs.Glue.Initialization
/-!
# Calls that end

The body of a function ends if its conversions do. Those before the call convert what the caller
gave, and those after it what the callee wrote, so the body ends for a caller and a callee that give
values of the declared types, with counts inside their arrays.

## Main Definitions

* `Library.Arguments`, `Library.Replies` — what a caller gives and what a callee writes.
* `Library.KeyGiven` — the key is there for the conversions before the call.

## Main Results

* `Library.exists_converts`, `Library.exists_fills` — the conversions of typed values end.
* `Library.implementation_calls` — the meaning of the body of a function.
-/

namespace InteropGlue

open CSharp

namespace Library

variable {F : Framework}

/-! ### Callers and callees -/

section Values

variable (lib : Library) (target : Target) (f : Function)

/-- What a caller gives: values of the declared types for all parameters that are not only written,
and an instance wherever the callee fills one. -/
structure Arguments (given : Param → Option (Value F)) : Prop where
  typed : ∀ p ∈ f.params, ∀ value, given p = some value →
    lib.Typed (.application target) p.type value
  counted : ∀ p ∈ f.params, ∀ value, given p = some value → lib.Counted p.type none value
  present : ∀ p ∈ f.params, lib.kindOf p.type = .classType →
    ∀ value, given p = some value → p.isWritten = true → value.isNull = false
  number : ∀ p ∈ f.params, p.type = .named "int" →
    ∀ value, given p = some value → ∃ number, value = .number "int" number

/-- What a callee writes and returns: values of the declared types, and always an instance of a
class. -/
structure Replies (reply : Reply F) : Prop where
  typed : ∀ p ∈ f.params, p.isWritten = true →
    lib.Typed (.native target) p.type (reply.written p.name)
  counted : ∀ p ∈ f.params, p.isWritten = true → lib.Counted p.type none (reply.written p.name)
  present : ∀ p ∈ f.params, lib.kindOf p.type = .classType → p.isWritten = true →
    (reply.written p.name).isNull = false
  number : ∀ p ∈ f.params, p.type = .named "int" → p.isWritten = true →
    ∃ number, reply.written p.name = .number "int" number
  resultTyped : f.returnType ≠ .named "void" →
    lib.Typed (.native target) f.returnType reply.result
  resultCounted : f.returnType ≠ .named "void" → lib.Counted f.returnType none reply.result

/-- The key is not only written if a conversion before the call takes it. -/
def KeyGiven : Prop :=
  ∀ key, f.machineParam? = some key → key.direction = .output →
    ∀ p ∈ f.params, lib.Crossing p.type → p.direction ≠ .input ∧ p.direction ≠ .byRef

end Values

variable {lib : Library} {M : Machine F} {target : Target} {conversion : Conversion} {f : Function}
  {p : Param} {number : Int} {source before : Value F}

/-! ### Conversions that end -/

section Conversions

variable (accepted : lib.Accepted) (plain : lib.PlainRecords) (unmarked : lib.UnmarkedNames)
  (distinct : lib.DistinctFields) (types : DeclaresRecords lib target M)
  (routines : M.routines = lib.routines target) (makes : lib.Makes target M)
include accepted plain unmarked distinct types routines makes

/-- The conversion of a typed value ends. -/
theorem exists_converts {type : TypeRef} (crossing : lib.Crossing type)
    (typed : lib.Typed (conversion.sourceMode target) type source)
    (counted : lib.Counted type none source) :
    ∃ after, M.Converts conversion.valueRoutine (.number "int" number) source after := by
  obtain ⟨name, rfl⟩ := crossing.exists_named
  have known : lib.kindOfName name ≠ .unknown := by
    intro unknown
    simp [Crossing, kindOf, unknown] at crossing
  obtain ⟨after, converts⟩ := @hasConversion F lib M target conversion number distinct types makes
    source (.named name) false none source typed counted (by simp)
  have copies := (@copies_iff F lib M target conversion number accepted plain distinct unmarked types
    routines source (.named name) false 0 none source after known typed (by simp)).mpr converts
  rw [Copies] at copies
  refine ⟨after, ?_⟩
  rcases crossing with kind | kind | kind <;> rw [kindOf] at kind <;> rw [kind] at copies <;>
    exact copies

/-- Filling an instance from a typed one ends. -/
theorem exists_fills {type : TypeRef} (kind : lib.kindOf type = .classType)
    (typed : lib.Typed (conversion.sourceMode target) type source)
    (counted : lib.Counted type none source) (present : source.isNull = false)
    (fillable : lib.Fillable (conversion.destMode target) type before)
    (instanced : before.isNull = false) :
    ∃ final, M.Fills conversion.copyRoutine .byValue (.number "int" number) source before final := by
  obtain ⟨name, rfl⟩ := Crossing.exists_named (.inr (.inr kind))
  have known : lib.kindOfName name ≠ .unknown := by
    intro unknown
    simp [kindOf, unknown] at kind
  obtain ⟨after, converts⟩ := @hasConversion F lib M target conversion number distinct types makes
    source (.named name) true none before typed counted fun _ => fillable
  have copies := (@copies_iff F lib M target conversion number accepted plain distinct unmarked types
    routines source (.named name) true 0 none before after known typed fun _ => fillable).mpr
      converts
  rw [kindOf] at kind
  rw [Copies, kind] at copies
  simp only [if_true, present, instanced, Bool.false_eq_true, if_false] at copies
  obtain ⟨start, final, rfl, fills, -⟩ := copies
  exact ⟨final, fills⟩

/-! ### Parameters and results that have a value -/

/-- There is something to pass for a parameter. -/
theorem exists_passes {key given : Option (Value F)} (convertible : lib.Convertible p)
    (admitted : given = none ↔ p.direction = .output)
    (typed : ∀ value, given = some value → lib.Typed (.application target) p.type value)
    (counted : ∀ value, given = some value → lib.Counted p.type none value)
    (keyed : lib.Crossing p.type → p.direction = .input ∨ p.direction = .byRef →
      ∃ number, key = some (.number "int" number)) :
    ∃ incoming, lib.Passes M target key p given incoming := by
  have made : lib.kindOf p.type = .classType →
      ∃ start, M.construct? (lib.nativeType target p) = some start := by
    intro kind
    obtain ⟨name, isNamed⟩ := Crossing.exists_named (.inr (.inr kind))
    rw [isNamed] at kind
    obtain ⟨record, declared, rfl, -⟩ := exists_class kind
    rw [nativeType, isNamed]
    exact makes true true record declared
  by_cases output : p.direction = .output
  · exact ⟨none, .output output made⟩
  obtain ⟨value, rfl⟩ := Option.ne_none_iff_exists'.mp (mt admitted.mp output)
  by_cases crossing : lib.Crossing p.type
  · by_cases buffer : p.direction = .buffer
    · have kind : lib.kindOf p.type = .classType := by
        rcases crossing with handle | struct | isClass
        · exact absurd buffer (convertible.2.1 (.inl handle))
        · exact absurd buffer (convertible.2.1 (.inr struct))
        · exact isClass
      obtain ⟨start, constructed⟩ := made kind
      exact ⟨some start, .instance kind buffer constructed⟩
    · have isRead : p.direction = .input ∨ p.direction = .byRef := by
        cases direction : p.direction <;> simp_all
      obtain ⟨number, isKey⟩ := keyed crossing isRead
      obtain ⟨native, converts⟩ := @exists_converts F lib M target .unwrap number value accepted
        plain unmarked distinct types routines makes p.type crossing (typed value rfl)
        (counted value rfl)
      exact ⟨some native, .unwrapped crossing isRead isKey converts⟩
  · by_cases kind : lib.kindOf p.type = .bool
    · have isBool := kindOf_eq_bool_iff.mp kind
      have isTyped := typed value rfl
      rw [isBool] at isTyped kind
      have isTruth : ∃ truth, value = .truth truth := by
        cases isTyped with
        | nativeBool _ native => simp [Mode.application] at native
        | truth => exact ⟨_, rfl⟩
        | _ => simp_all [kindOf]
      obtain ⟨truth, rfl⟩ := isTruth
      have converts := (@converts_bool_iff F lib M target .unwrap (.truth truth)
        (.number nativeBool (if truth then 1 else 0)) accepted plain routines "bool" kind
          isTyped).mpr rfl
      exact ⟨_, .bool (by rw [isBool]; exact kind) converts⟩
    · exact ⟨some value, .same crossing kind output⟩

/-- What the caller gets as the result. -/
theorem exists_answers {key : Option (Value F)} {type : TypeRef} {native : Value F}
    (typed : type ≠ .named "void" → lib.Typed (.native target) type native)
    (counted : type ≠ .named "void" → lib.Counted type none native)
    (keyed : lib.Crossing type → ∃ number, key = some (.number "int" number)) :
    ∃ result, lib.Answers M key type native result := by
  by_cases isVoid : type = .named "void"
  · exact ⟨_, .nothing isVoid⟩
  by_cases crossing : lib.Crossing type
  · obtain ⟨number, isKey⟩ := keyed crossing
    obtain ⟨value, converts⟩ := @exists_converts F lib M target .wrap number native accepted plain
      unmarked distinct types routines makes type crossing (typed isVoid) (counted isVoid)
    exact ⟨value, .wrapped crossing isKey converts⟩
  by_cases kind : lib.kindOf type = .bool
  · obtain rfl := kindOf_eq_bool_iff.mp kind
    have isTyped := typed isVoid
    have isNumber : ∃ number, native = .number nativeBool number := by
      cases isTyped with
      | nativeBool => exact ⟨_, rfl⟩
      | truth _ application => simp [Mode.native] at application
      | _ => simp_all [kindOf]
    obtain ⟨number, rfl⟩ := isNumber
    exact ⟨_, .bool kind ((@converts_bool_iff F lib M target .wrap (.number nativeBool number)
      (.truth (number != 0)) accepted plain routines "bool" kind isTyped).mpr rfl)⟩
  · exact ⟨native, .same isVoid crossing kind⟩

end Conversions

/-! ### What parameters hold on return -/

/-- An instance that the callee fills is one of the class, with the content that the callee wrote. -/
theorem settled_class (types : DeclaresRecords lib target M) {key given incoming : Option (Value F)}
    {written : Value F} (kind : lib.kindOf p.type = .classType) (isWritten : p.isWritten = true)
    (passes : lib.Passes M target key p given incoming)
    (typed : lib.Typed (.native target) p.type written) (counted : lib.Counted p.type none written)
    (present : written.isNull = false) :
    lib.Typed (.native target) p.type (settled p incoming written) ∧
      lib.Counted p.type none (settled p incoming written) ∧
        (settled p incoming written).isNull = false := by
  -- Only a buffer keeps the instance that it was given, with the content that is written.
  have sameInstance : p.direction = .output ∨ p.direction = .byRef →
      settled p incoming written = written := by
    rintro (direction | direction) <;> simp [settled, direction]
  cases direction : p.direction with
  | input =>
    rw [isWritten_eq_false_iff.mpr direction] at isWritten
    exact absurd isWritten (by simp)
  | output =>
    rw [sameInstance (.inl direction)]
    exact ⟨typed, counted, present⟩
  | byRef =>
    rw [sameInstance (.inr direction)]
    exact ⟨typed, counted, present⟩
  | buffer =>
    cases passes with
    | @«instance» _ start _ _ constructed =>
      obtain ⟨name, isNamed⟩ := Crossing.exists_named (.inr (.inr kind))
      rw [nativeType, isNamed] at constructed
      rw [isNamed] at typed counted kind ⊢
      obtain ⟨record, declared, rfl, isFound⟩ := exists_class kind
      obtain ⟨old, rfl, -⟩ :=
        @exists_content F lib target M true record _ types true declared constructed
      cases typed with
      | @«instance» _ _ identity content _ found shared fields =>
        have filled : settled p (some (.record (lib.typeName ⟨true, target⟩ (.named record.name))
            .fresh old)) (.record (lib.typeName (.native target) (.named record.name)) identity
              content) =
            .record (lib.typeName (.native target) (.named record.name)) .fresh content := by
          simp [settled, direction, Value.filledWith, Value.afterCall, Value.isShared, Mode.native]
        simp only [if_true]
        rw [filled]
        exact ⟨.instance kind found (by simp) fields,
          .instance kind found (counted.fields_class kind found), rfl⟩
      | noInstance => simp [Value.isNull] at present
      | _ => simp_all [kindOf, Converted, TypeRef.innermost]
    | unwrapped _ isRead => simp [direction] at isRead
    | output output => simp [direction] at output
    | same notCrossing => exact absurd (.inr (.inr kind)) notCrossing
    | bool isBool => simp [kind] at isBool

/-- What a parameter that is not converted holds on return depends on no key. -/
theorem exists_leaves_plain {key given incoming : Option (Value F)} {written : Value F}
    (notCrossing : ¬ lib.Crossing p.type) (admitted : given = none ↔ p.direction = .output)
    (passes : lib.Passes M target key p given incoming)
    (givenNumber : p.type = .named "int" →
      ∀ value, given = some value → ∃ number, value = .number "int" number)
    (writtenNumber : p.type = .named "int" → p.isWritten = true →
      ∃ number, written = .number "int" number) :
    ∃ final, (∀ key, lib.Leaves M target key p given incoming written final) ∧
      (p.type = .named "int" → ∃ number, final = .number "int" number) := by
  by_cases input : p.direction = .input
  · obtain ⟨value, rfl⟩ := Option.ne_none_iff_exists'.mp (mt admitted.mp (by simp [input]))
    exact ⟨value, fun _ => .same input rfl, fun isInt => givenNumber isInt value rfl⟩
  have isWritten : p.isWritten = true := by
    rw [← Bool.not_eq_false, isWritten_eq_false_iff]
    exact input
  refine ⟨_, fun _ => .written notCrossing isWritten, fun isInt => ?_⟩
  obtain ⟨number, rfl⟩ := writtenNumber isInt isWritten
  cases direction : p.direction with
  | input => exact absurd direction input
  | output | byRef => exact ⟨number, by simp [settled, direction]⟩
  | buffer =>
    cases passes with
    | @same value =>
      obtain ⟨old, rfl⟩ := givenNumber isInt value rfl
      exact ⟨old, by simp [settled, direction, Value.filledWith, Value.afterCall, Value.isShared]⟩
    | unwrapped crossing => exact absurd crossing notCrossing
    | «instance» kind => exact absurd (.inr (.inr kind)) notCrossing
    | output output => simp [direction] at output
    | bool kind =>
      rw [isInt] at kind
      simp [kindOf, kindOfName, handleType, show canonicalPrimitive? "int" = some "int" by decide]
        at kind

section Leaves

variable (accepted : lib.Accepted) (plain : lib.PlainRecords) (unmarked : lib.UnmarkedNames)
  (distinct : lib.DistinctFields) (types : DeclaresRecords lib target M)
  (routines : M.routines = lib.routines target) (makes : lib.Makes target M)
include accepted plain unmarked distinct types routines makes

/-- What a parameter that is converted holds on return. -/
theorem exists_leaves_crossing {key given incoming : Option (Value F)} {written : Value F}
    (crossing : lib.Crossing p.type) (admitted : given = none ↔ p.direction = .output)
    (passes : lib.Passes M target key p given incoming)
    (givenTyped : ∀ value, given = some value → lib.Typed (.application target) p.type value)
    (givenPresent : lib.kindOf p.type = .classType →
      ∀ value, given = some value → p.isWritten = true → value.isNull = false)
    (typed : p.isWritten = true → lib.Typed (.native target) p.type written)
    (counted : p.isWritten = true → lib.Counted p.type none written)
    (present : lib.kindOf p.type = .classType → p.isWritten = true → written.isNull = false) :
    ∃ final, lib.Leaves M target (some (.number "int" number)) p given incoming written final := by
  by_cases input : p.direction = .input
  · obtain ⟨value, rfl⟩ := Option.ne_none_iff_exists'.mp (mt admitted.mp (by simp [input]))
    exact ⟨value, .same input rfl⟩
  have isWritten : p.isWritten = true := by
    rw [← Bool.not_eq_false, isWritten_eq_false_iff]
    exact input
  by_cases kind : lib.kindOf p.type = .classType
  · obtain ⟨isTyped, isCounted, isPresent⟩ := settled_class types kind isWritten passes
      (typed isWritten) (counted isWritten) (present kind isWritten)
    obtain ⟨name, isNamed⟩ := crossing.exists_named
    have isClass : lib.kindOfName name = .classType := by rw [isNamed] at kind; exact kind
    obtain ⟨record, declared, rfl, found⟩ := exists_class isClass
    -- The instance that is filled: a new one, or that of the caller.
    have started : ∃ start, (if p.isOut then
          M.construct? (lib.typeName (.application target) p.type) = some start
        else given = some start) ∧
        lib.Fillable (.application target) p.type start ∧ start.isNull = false := by
      rw [isNamed]
      by_cases output : p.isOut = true
      · rw [output]
        obtain ⟨start, constructed⟩ := makes false true record declared
        obtain ⟨content, rfl, -⟩ :=
          @exists_content F lib target M true record _ types false declared constructed
        have fields := @fillable_of_construct? F lib target M true record types false distinct _ _ _
          declared constructed
        exact ⟨_, constructed, .instance isClass found (by simp) fields, rfl⟩
      · obtain ⟨value, rfl⟩ := Option.ne_none_iff_exists'.mp
          (mt admitted.mp (by simpa [Param.isOut] using output))
        have fillable := (givenTyped value rfl).fillable
        rw [isNamed] at fillable
        exact ⟨value, by rw [if_neg output], fillable, givenPresent kind value rfl isWritten⟩
    obtain ⟨start, isStart, fillable, instanced⟩ := started
    obtain ⟨final, fills⟩ := @exists_fills F lib M target .wrap number _ start accepted plain
      unmarked distinct types routines makes p.type kind isTyped isCounted isPresent fillable
      instanced
    exact ⟨_, .filled kind isWritten rfl isStart fills⟩
  · have isValue : lib.kindOf p.type = .handle ∨ lib.kindOf p.type = .structType := by
      rcases crossing with handle | struct | isClass
      · exact .inl handle
      · exact .inr struct
      · exact absurd isClass kind
    obtain ⟨value, converts⟩ := @exists_converts F lib M target .wrap number written accepted plain
      unmarked distinct types routines makes p.type crossing (typed isWritten) (counted isWritten)
    exact ⟨value, .wrapped isValue isWritten rfl converts⟩

end Leaves

/-! ### The body -/

/-- The key is there for what is converted before the call. -/
theorem exists_keyBefore {given : Param → Option (Value F)} (accepted : lib.Accepted)
    (member : f ∈ lib.functions) (keyGiven : lib.KeyGiven f)
    (arguments : lib.Arguments target f given)
    (admitted : ∀ p ∈ f.params, given p = none ↔ p.direction = .output) (isParam : p ∈ f.params)
    (crossing : lib.Crossing p.type) (isRead : p.direction = .input ∨ p.direction = .byRef) :
    ∃ number, f.machineParam?.bind given = some (.number "int" number) := by
  obtain ⟨key, found, isInt⟩ := accepted.sound.keyed f (List.mem_append_left _ member)
    (.inr ⟨p, isParam, crossing.converted⟩)
  have isKey := List.mem_of_find?_eq_some found
  -- A key that only the callee sets would be read before the call.
  have notOutput : key.direction ≠ .output := by
    intro output
    obtain ⟨notInput, notRef⟩ := keyGiven key found output p isParam crossing
    exact isRead.elim notInput notRef
  obtain ⟨value, isValue⟩ := Option.ne_none_iff_exists'.mp (mt (admitted key isKey).mp notOutput)
  obtain ⟨number, rfl⟩ := arguments.number key isKey isInt value isValue
  exact ⟨number, by rw [found, Option.bind_some, isValue]⟩

/-- All parameters have something to hold on return, and the key is an `int` wherever something is
converted. -/
theorem exists_finals (accepted : lib.Accepted) (plain : lib.PlainRecords)
    (unmarked : lib.UnmarkedNames) (distinct : lib.DistinctFields)
    (types : DeclaresRecords lib target M) (routines : M.routines = lib.routines target)
    (makes : lib.Makes target M) (member : f ∈ lib.functions) {reply : Reply F}
    {given incoming : Param → Option (Value F)} {keyBefore : Option (Value F)}
    (arguments : lib.Arguments target f given)
    (admitted : ∀ p ∈ f.params, given p = none ↔ p.direction = .output)
    (passes : ∀ p ∈ f.params, lib.Passes M target keyBefore p (given p) (incoming p))
    (isReply : lib.Replies target f reply) :
    ∃ final : Param → Value F,
      (∀ p ∈ f.params, lib.Leaves M target (f.machineParam?.map final) p (given p) (incoming p)
        (reply.written p.name) (final p)) ∧
      ((lib.Converted f.returnType ∨ ∃ p ∈ f.params, lib.Converted p.type) →
        ∃ number, f.machineParam?.map final = some (.number "int" number)) := by
  have nonempty : Nonempty (Value F) := ⟨.nothing⟩
  have plainFinals : ∀ p ∈ f.params, ¬ lib.Crossing p.type → ∃ final,
      (∀ key, lib.Leaves M target key p (given p) (incoming p) (reply.written p.name) final) ∧
        (p.type = .named "int" → ∃ number, final = .number "int" number) :=
    fun p isParam notCrossing => exists_leaves_plain notCrossing (admitted p isParam)
      (passes p isParam) (arguments.number p isParam) (isReply.number p isParam)
  choose! plainFinal plainLeaves using plainFinals
  -- The key is not converted, so what it holds on return is known before what is converted by it.
  have keyAfter : (lib.Converted f.returnType ∨ ∃ p ∈ f.params, lib.Converted p.type) →
      ∃ number, f.machineParam?.map plainFinal = some (.number "int" number) := by
    intro converted
    obtain ⟨key, found, isInt⟩ := accepted.sound.keyed f (List.mem_append_left _ member) converted
    obtain ⟨number, isNumber⟩ := (plainLeaves key (List.mem_of_find?_eq_some found)
      (not_crossing_machineParam accepted member found)).2 isInt
    exact ⟨number, by rw [found, Option.map_some, isNumber]⟩
  have crossingFinals : ∀ p ∈ f.params, lib.Crossing p.type → ∃ final,
      lib.Leaves M target (f.machineParam?.map plainFinal) p (given p) (incoming p)
        (reply.written p.name) final := by
    intro p isParam crossing
    obtain ⟨number, isKey⟩ := keyAfter (.inr ⟨p, isParam, crossing.converted⟩)
    rw [isKey]
    exact @exists_leaves_crossing F lib M target p number accepted plain unmarked distinct types
      routines makes _ _ _ _ crossing (admitted p isParam) (passes p isParam)
      (arguments.typed p isParam) (arguments.present p isParam) (isReply.typed p isParam)
      (isReply.counted p isParam) (isReply.present p isParam)
  choose! crossingFinal crossingLeaves using crossingFinals
  let final : Param → Value F := fun p =>
    if lib.Crossing p.type then crossingFinal p else plainFinal p
  have sameKey : f.machineParam?.map final = f.machineParam?.map plainFinal := by
    cases found : f.machineParam? with
    | none => rfl
    | some key => simp [final, not_crossing_machineParam accepted member found]
  refine ⟨final, fun p isParam => ?_, fun converted => sameKey ▸ keyAfter converted⟩
  rw [sameKey]
  by_cases crossing : lib.Crossing p.type
  · rw [show final p = crossingFinal p from if_pos crossing]
    exact crossingLeaves p isParam crossing
  · rw [show final p = plainFinal p from if_neg crossing]
    exact (plainLeaves p isParam crossing).1 _

end Library

/-! ### A call in a small library -/

namespace Sample

/-- A point on the application surface. -/
def applicationPoint : String → Value framework
  | "x" => .number "int" 1
  | _ => .object (5, 7)

/-- Items on the application surface, without an array. -/
def applicationItems : String → Value framework
  | "count" => .number "int" 0
  | "visible" => .truth false
  | "first" => .record "Point" .inline applicationPoint
  | _ => .null "Point[]"

/-- What a caller of the function of the small library gives. -/
def givenItems (p : Param) : Option (Value framework) :=
  match p.name with
  | "vmid" => some (.number "int" 5)
  | "context" => some (.object (5, 9))
  | "corner" => some (.record "Point" .inline applicationPoint)
  | "items" => some (.record "Items" (.known 0) applicationItems)
  | "visible" => some (.truth true)
  | _ => none

/-- What native code writes and returns. -/
def itemsReply : Reply framework :=
  { written := fun name =>
      match name with
      | "child" => .number "JOBJECT32" 4
      | "corner" => .record "PointNativeLegacy" .inline (nativePoint 3 7)
      | "items" => .record "ItemsNativeLegacy" (.known 1) nativeItems
      | _ => .number "int" 2
    result := .number "BOOL" 1 }

theorem applicationPoint_typed : library.Typed (.application .legacy) (.named "Point")
    (.record "Point" .inline applicationPoint) := by
  have found : library.struct? "Point" = some point := rfl
  refine .struct (by decide) found ?_
  intro field member
  simp only [point, List.mem_cons, List.not_mem_nil, or_false] at member
  rcases member with rfl | rfl
  · exact .other kindOfName_primitive.1 kindOfName_primitive.2 rfl
  · exact .object (by decide) rfl

theorem applicationPoint_counted : library.Counted (.named "Point") none
    (.record "Point" .inline applicationPoint : Value framework) := by
  have found : library.struct? "Point" = some point := rfl
  refine .struct (by decide) found ?_
  intro field member
  simp only [point, List.mem_cons, List.not_mem_nil, or_false] at member
  rcases member with rfl | rfl <;> exact .plain (by decide) (by decide)

theorem applicationItems_typed : library.Typed (.application .legacy) (.named "Items")
    (.record "Items" (.known 0) applicationItems) := by
  have found : library.class? "Items" = some items := rfl
  refine .instance (by decide) found (by simp) ?_
  intro field member
  simp only [items, List.mem_cons, List.not_mem_nil, or_false] at member
  rcases member with rfl | rfl | rfl | rfl
  · exact .other kindOfName_primitive.1 kindOfName_primitive.2 rfl
  · exact .truth (by decide) rfl
  · exact applicationPoint_typed
  · exact .noArray

theorem applicationItems_counted : library.Counted (.named "Items") none
    (.record "Items" (.known 0) applicationItems : Value framework) := by
  have found : library.class? "Items" = some items := rfl
  refine .instance (by decide) found ?_
  intro field member
  simp only [items, List.mem_cons, List.not_mem_nil, or_false] at member
  rcases member with rfl | rfl | rfl | rfl
  · exact .plain (by decide) (by decide)
  · exact .plain (by decide) (by decide)
  · exact applicationPoint_counted
  · exact .missing rfl

theorem givenItems_arguments : library.Arguments .legacy getItems givenItems where
  typed := by
    simp only [getItems, List.mem_cons, List.not_mem_nil, or_false]
    rintro p (rfl | rfl | rfl | rfl | rfl | rfl | rfl) value same <;> cases same
    · exact .other kindOfName_primitive.1 kindOfName_primitive.2 rfl
    · exact .object (by decide) rfl
    · exact applicationPoint_typed
    · exact applicationItems_typed
    · exact .truth (by decide) rfl
  counted := by
    simp only [getItems, List.mem_cons, List.not_mem_nil, or_false]
    rintro p (rfl | rfl | rfl | rfl | rfl | rfl | rfl) value same <;> cases same
    · exact .plain (by decide) (by decide)
    · exact .plain (by decide) (by decide)
    · exact applicationPoint_counted
    · exact applicationItems_counted
    · exact .plain (by decide) (by decide)
  present := by
    simp only [getItems, List.mem_cons, List.not_mem_nil, or_false]
    rintro p (rfl | rfl | rfl | rfl | rfl | rfl | rfl) _ value same _ <;> cases same <;> rfl
  number := by
    simp only [getItems, List.mem_cons, List.not_mem_nil, or_false]
    rintro p (rfl | rfl | rfl | rfl | rfl | rfl | rfl) isInt value same
    · cases same
      exact ⟨5, rfl⟩
    · exact absurd isInt (by decide)
    · exact absurd isInt (by decide)
    · exact absurd isInt (by decide)
    · exact absurd isInt (by decide)
    · exact absurd isInt (by decide)
    · cases same

theorem itemsReply_replies : library.Replies .legacy getItems itemsReply where
  typed := by
    simp only [getItems, List.mem_cons, List.not_mem_nil, or_false]
    rintro p (rfl | rfl | rfl | rfl | rfl | rfl | rfl) isWritten
    · simp [Param.isWritten] at isWritten
    · simp [Param.isWritten] at isWritten
    · exact .nativeHandle (by decide) rfl
    · exact nativePoint_typed 3 7
    · have found : library.class? "Items" = some items := rfl
      exact .instance (by decide) found (by simp) nativeItems_typed
    · simp [Param.isWritten] at isWritten
    · exact .other kindOfName_primitive.1 kindOfName_primitive.2 rfl
  counted := by
    simp only [getItems, List.mem_cons, List.not_mem_nil, or_false]
    rintro p (rfl | rfl | rfl | rfl | rfl | rfl | rfl) isWritten
    · simp [Param.isWritten] at isWritten
    · simp [Param.isWritten] at isWritten
    · exact .plain (by decide) (by decide)
    · exact nativePoint_counted 3 7
    · have found : library.class? "Items" = some items := rfl
      exact .instance (by decide) found nativeItems_counted
    · simp [Param.isWritten] at isWritten
    · exact .plain (by decide) (by decide)
  present := by
    simp only [getItems, List.mem_cons, List.not_mem_nil, or_false]
    rintro p (rfl | rfl | rfl | rfl | rfl | rfl | rfl) _ _ <;> rfl
  number := by
    simp only [getItems, List.mem_cons, List.not_mem_nil, or_false]
    rintro p (rfl | rfl | rfl | rfl | rfl | rfl | rfl) isInt isWritten
    · exact ⟨2, rfl⟩
    · exact absurd isInt (by decide)
    · exact absurd isInt (by decide)
    · exact absurd isInt (by decide)
    · exact absurd isInt (by decide)
    · exact absurd isInt (by decide)
    · exact ⟨2, rfl⟩
  resultTyped := fun _ => .nativeBool (by decide) rfl
  resultCounted := fun _ => .plain (by decide) (by decide)

/-- The records of the small library can be made whatever native code does. -/
theorem library_acyclic : library.AcyclicClasses := by
  have nothing : ∀ outer inner, ¬ library.Nests outer inner := by
    rintro outer inner ⟨record, declared, -, field, member, isNamed, kind⟩
    obtain rfl := List.mem_singleton.mp declared
    have noClass : ∀ field ∈ items.fields, library.kindOf field.type ≠ .classType := by decide
    exact noClass field member (by rw [isNamed, Library.kindOf, kind])
  intro name cycle
  cases cycle with
  | single step => exact nothing _ _ step
  | tail _ step => exact nothing _ _ step

end Sample

end InteropGlue
