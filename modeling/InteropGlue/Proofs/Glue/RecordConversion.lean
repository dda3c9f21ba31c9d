import Mathlib.Data.List.TakeWhile
import InteropGlue.Proofs.Glue.ConversionRuns
import InteropGlue.Proofs.Glue.Instances
import InteropGlue.Proofs.Glue.StructuralConversion
/-!
# Copying converts

The statements that copy a value compute its structural conversion. The proof is an induction over
the value: a copy calls the conversions of the parts of its source, which are smaller.

## Main Definitions

* `Library.CopiesConvert` — copying a value of any type to any place converts it.

## Main Results

* `Library.copiesFields_iff` — copying fields one after the other treats each by itself.
* `Library.copies_struct_iff`, `Library.copies_inPlace_iff`, `Library.copies_array_iff`, … — a value
  whose parts are converted is converted.
* `Library.copies_iff` — copying any value converts it.
-/

namespace InteropGlue

open CSharp

variable {F : Framework}

namespace Library

variable {lib : Library} {M : Machine F} {target : Target} {conversion : Conversion} {key : Int}
  {source before after : Value F}

/-! ### Fields -/

/-- Copying fields one after the other treats each by itself. -/
theorem copiesFields_iff {fields : List Field} {key : Value F} {old new : String → Value F}
    (distinct : (fields.map (·.name)).Nodup) :
    lib.CopiesFields M target conversion key source fields old new ↔
      (∀ field ∈ fields, ∃ part, source.member field.name = some part ∧
        lib.Copies M { target, conversion, inPlace := true, depth := 0 } key field.type
          ((field.countField?.map source.member).getD (part.member "Length")) part
          (old field.name) (new field.name)) ∧
        ∀ name, name ∉ fields.map (·.name) → new name = old name := by
  induction fields generalizing old with
  | nil =>
    simp only [CopiesFields, List.not_mem_nil, false_imp_iff, implies_true, true_and,
      List.map_nil, not_false_eq_true, forall_const]
    exact funext_iff
  | cons field rest ih =>
    rw [List.map_cons, List.nodup_cons] at distinct
    obtain ⟨first, distinctRest⟩ := distinct
    have apart : ∀ other ∈ rest, ∀ value : Value F,
        Function.update old field.name value other.name = old other.name := by
      intro other member value
      have different : other.name ≠ field.name := fun same =>
        first (same ▸ List.mem_map_of_mem member)
      exact Function.update_of_ne different _ _
    simp only [CopiesFields, ih distinctRest, List.forall_mem_cons]
    constructor
    · rintro ⟨part, value, found, copied, each, others⟩
      have isNew : new field.name = value := by rw [others _ first, Function.update_self]
      refine ⟨⟨⟨part, found, isNew ▸ copied⟩, fun other member => ?_⟩, fun name notField => ?_⟩
      · obtain ⟨otherPart, otherFound, otherCopied⟩ := each other member
        exact ⟨otherPart, otherFound, apart other member value ▸ otherCopied⟩
      · rw [List.map_cons, List.mem_cons, not_or] at notField
        rw [others name notField.2, Function.update_of_ne notField.1]
    · rintro ⟨⟨⟨part, found, copied⟩, each⟩, others⟩
      refine ⟨part, new field.name, found, copied, fun other member => ?_, fun name notRest => ?_⟩
      · obtain ⟨otherPart, otherFound, otherCopied⟩ := each other member
        exact ⟨otherPart, otherFound, (apart other member _).symm ▸ otherCopied⟩
      · by_cases same : name = field.name
        · rw [same, Function.update_self]
        · rw [Function.update_of_ne same, others]
          rw [List.map_cons, List.mem_cons, not_or]
          exact ⟨same, notRest⟩

/-! ### Calls of conversions -/

section Calls

variable (accepted : lib.Accepted) (plain : lib.PlainRecords)
  (routines : M.routines = lib.routines target)
include accepted plain routines

/-- A call that fills a record copies its fields. -/
theorem fills_iff {isClass : Bool} {record : Record} {identity : Identity}
    {content : String → Value F}
    (declared : record ∈ if isClass then lib.classes else lib.structs)
    (sourced : source.type = lib.typeName (conversion.sourceMode target) (.named record.name)) :
    M.Fills conversion.copyRoutine (if isClass then .byValue else .ref) (.number "int" key) source
        (.record (lib.typeName (conversion.destMode target) (.named record.name)) identity content)
        after ↔
      ∃ filled, lib.CopiesFields M target conversion (.number "int" key) source record.fields
          content filled ∧
        after = .record (lib.typeName (conversion.destMode target) (.named record.name)) identity
          filled := by
  have called : Called lib target (lib.copyRoutine target conversion isClass record)
      conversion.copyRoutine [(.byValue, some (.number "int" key)), (.byValue, some source),
        (if isClass then .byValue else .ref,
          some (.record (lib.typeName (conversion.destMode target) (.named record.name)) identity
            content))] :=
    .copy declared rfl sourced rfl
  refine (exists_congr fun result => invoke?_of_called accepted plain routines called).trans ?_
  simp only [List.map_cons, List.map_nil,
    run_copyRoutine_iff (quietBooleans routines) (quietParts routines)]
  constructor
  · rintro ⟨result, filled, copied, same⟩
    have finals := (Outcome.mk.inj same).2.1
    exact ⟨filled, copied, by simpa using finals⟩
  · rintro ⟨filled, copied, rfl⟩
    exact ⟨_, filled, copied, rfl⟩

/-- A call that converts a record makes a new one. -/
theorem converts_record_iff {isClass : Bool} {record : Record}
    (declared : record ∈ if isClass then lib.classes else lib.structs)
    (sourced : source.type = lib.typeName (conversion.sourceMode target) (.named record.name)) :
    M.Converts conversion.valueRoutine (.number "int" key) source after ↔
      lib.Allocates M target conversion isClass record (.number "int" key) source after := by
  have called : Called lib target (lib.allocatingRoutine target conversion isClass record)
      conversion.valueRoutine [(.byValue, some (.number "int" key)), (.byValue, some source)] :=
    .allocate declared rfl sourced
  have notVoid := typeName_record_ne_void plain (conversion.destMode target) declared
  rw [Machine.Converts, invoke?_of_called accepted plain routines called, List.map_cons,
    List.map_cons, List.map_nil,
    run_allocatingRoutine_iff (keepsSource routines (quietParts routines)) notVoid]
  constructor
  · rintro ⟨value, allocates, same⟩
    rw [(Outcome.mk.inj same).2.2]
    exact allocates
  · intro allocates
    exact ⟨after, allocates, rfl⟩

/-- A call that converts a handle. -/
theorem converts_handle_iff {name : String} (kind : lib.kindOfName name = .handle)
    (typed : lib.Typed (conversion.sourceMode target) (.named name) source) :
    M.Converts conversion.valueRoutine (.number "int" key) source after ↔
      conversion.handle? target key source = some after := by
  have wrapped : ∀ {handle : Int}, M.Converts "Wrap" (.number "int" key)
      (.number target.handleName handle) after ↔ after = .object (F.handleObject key handle) := by
    intro handle
    have called : Called lib target (wrapHandleRoutine target) "Wrap"
        [(.byValue, some (.number "int" key)),
          (.byValue, some (.number target.handleName handle : Value F))] := .wrapHandle rfl rfl
    rw [Machine.Converts, invoke?_of_called accepted plain routines called, List.map_cons,
      List.map_cons, List.map_nil, run_wrapHandleRoutine_iff]
    simp
  have unwrapped : ∀ {object : Value F}, object.type = handleType →
      (M.Converts "Unwrap" (.number "int" key) object after ↔
        if object.isNull then after = .number target.handleName 0
        else ∃ whole, object.member "Handle" = some whole ∧
          whole.cast target.handleName = some after) := by
    intro object sourced
    have called : Called lib target (unwrapHandleRoutine target) "Unwrap"
        [(.byValue, some (.number "int" key)), (.byValue, some object)] := .unwrapHandle rfl sourced
    rw [Machine.Converts, invoke?_of_called accepted plain routines called, List.map_cons,
      List.map_cons, List.map_nil, run_unwrapHandleRoutine_iff]
    simp
  cases conversion with
  | wrap =>
    cases typed with
    | nativeHandle => exact wrapped.trans (by simp [Conversion.handle?, eq_comm])
    | object _ application => simp [Mode.native] at application
    | noObject _ application => simp [Mode.native] at application
    | _ => simp_all [Converted, TypeRef.innermost]
  | unwrap =>
    cases typed with
    | nativeHandle _ native => simp [Mode.application] at native
    | object => exact (unwrapped rfl).trans (by simp [Conversion.handle?, Value.isNull, Value.member])
    | noObject => exact (unwrapped rfl).trans (by simp [Conversion.handle?, Value.isNull, eq_comm])
    | _ => simp_all [Converted, TypeRef.innermost]

/-- A call that converts a boolean. -/
theorem converts_bool_iff {name : String} (kind : lib.kindOfName name = .bool)
    (typed : lib.Typed (conversion.sourceMode target) (.named name) source) :
    M.invoke? conversion.boolRoutine [(.byValue, some source)] = some ([source], after) ↔
      conversion.bool? source = some after := by
  have toBool : ∀ {number : Int}, M.invoke? "ToBool"
      [(.byValue, some (.number nativeBool number))] =
        some ([.number nativeBool number], after) ↔ after = .truth (number != 0) := by
    intro number
    have called : Called lib target toBoolRoutine "ToBool"
        [(.byValue, some (.number nativeBool number : Value F))] := .toBool rfl
    rw [invoke?_of_called accepted plain routines called, List.map_cons, List.map_nil,
      run_toBoolRoutine_iff]
    simp
  have toNativeBool : ∀ {truth : Bool}, M.invoke? "ToBOOL" [(.byValue, some (.truth truth))] =
      some ([.truth truth], after) ↔ after = .number nativeBool (if truth then 1 else 0) := by
    intro truth
    have called : Called lib target toNativeBoolRoutine "ToBOOL"
        [(.byValue, some (.truth truth : Value F))] := .toNativeBool rfl
    rw [invoke?_of_called accepted plain routines called, List.map_cons, List.map_nil,
      run_toNativeBoolRoutine_iff]
    simp
  cases conversion with
  | wrap =>
    cases typed with
    | nativeBool => exact toBool.trans (by simp [Conversion.bool?, eq_comm])
    | truth _ application => simp [Mode.native] at application
    | _ => simp_all
  | unwrap =>
    cases typed with
    | nativeBool _ native => simp [Mode.application] at native
    | truth => exact toNativeBool.trans (by simp [Conversion.bool?, eq_comm])
    | _ => simp_all

end Calls

/-! ### Values -/

/-- Copying a value of any type to any place converts it. -/
def CopiesConvert (lib : Library) (M : Machine F) (target : Target) (conversion : Conversion)
    (key : Int) (source : Value F) : Prop :=
  ∀ ⦃type : TypeRef⦄ ⦃inPlace : Bool⦄ ⦃depth : Nat⦄ ⦃bound : Option (Value F)⦄
    ⦃before after : Value F⦄,
    lib.kindOfName type.innermost ≠ .unknown →
    lib.Typed (conversion.sourceMode target) type source →
    (inPlace = true → lib.Fillable (conversion.destMode target) type before) →
      (lib.Copies M { target, conversion, inPlace, depth } (.number "int" key) type
          ((bound.map some).getD (source.member "Length")) source before after ↔
        lib.ConvertsTo M target conversion key inPlace type bound source before after)

section Values

variable (accepted : lib.Accepted) (plain : lib.PlainRecords) (distinct : lib.DistinctFields)
  (unmarked : lib.UnmarkedNames) (types : DeclaresRecords lib target M)
  (routines : M.routines = lib.routines target)

include accepted in
/-- A field of a record means something. -/
theorem known_of_field {isClass : Bool} {record : Record}
    (declared : record ∈ if isClass then lib.classes else lib.structs) {field : Field}
    (member : field ∈ record.fields) : lib.kindOfName field.type.innermost ≠ .unknown :=
  (accepted.sound.field_resolves record (mem_records_iff.mpr ⟨isClass, declared⟩) field member).1

section Record

variable {isClass : Bool} {record : Record} {spelled : String} {identity sourceIdentity : Identity}
  {content old : String → Value F}
  (declared : record ∈ if isClass then lib.classes else lib.structs)
  (parts : ∀ name, CopiesConvert lib M target conversion key (content name))
  (typed : ∀ field ∈ record.fields,
    lib.Typed (conversion.sourceMode target) field.type (content field.name))
include accepted distinct declared parts typed

/-- Copying the fields of a record converts the record, if copying its fields converts them. -/
theorem copiesFields_iff_fillsTo {sourceType : String}
    (fillable : ∀ field ∈ record.fields,
      lib.Fillable (conversion.destMode target) field.type (old field.name)) :
    (∃ filled, lib.CopiesFields M target conversion (.number "int" key)
        (.record sourceType sourceIdentity content) record.fields old filled ∧
          after = .record spelled identity filled) ↔
      lib.FillsTo M target conversion key record (.record sourceType sourceIdentity content)
        (.record spelled identity old) after := by
  have each : ∀ filled : String → Value F, ∀ field ∈ record.fields, (∃ part,
      (Value.record sourceType sourceIdentity content).member field.name = some part ∧
        lib.Copies M { target, conversion, inPlace := true, depth := 0 } (.number "int" key)
          field.type ((field.countField?.map
              (Value.record sourceType sourceIdentity content).member).getD
                (part.member "Length")) part (old field.name) (filled field.name)) ↔
      lib.ConvertsTo M target conversion key true field.type (field.countField?.map content)
        (content field.name) (old field.name) (filled field.name) := by
    intro filled field member
    have copied := @parts field.name field.type true 0 (field.countField?.map content)
      (old field.name) (filled field.name) (known_of_field accepted declared member)
      (typed field member) (fun _ => fillable field member)
    rw [← copied, Option.map_map]
    simp only [Value.member, Option.some.injEq, exists_eq_left']
    rfl
  constructor
  · rintro ⟨filled, copied, rfl⟩
    obtain ⟨fields, others⟩ := (copiesFields_iff (distinct.of_declared declared)).mp copied
    exact .intro (fun field member => (each filled field member).mp (fields field member)) others
  · intro filled
    cases filled with
    | @intro _ _ _ _ _ _ _ filled fields others =>
      exact ⟨filled, (copiesFields_iff (distinct.of_declared declared)).mpr
        ⟨fun field member => (each filled field member).mpr (fields field member), others⟩, rfl⟩

include plain routines in
/-- A call that fills an instance converts the record. -/
theorem fills_iff_fillsTo
    (fillable : ∀ field ∈ record.fields,
      lib.Fillable (conversion.destMode target) field.type (old field.name)) :
    M.Fills conversion.copyRoutine (if isClass then .byValue else .ref) (.number "int" key)
        (.record (lib.typeName (conversion.sourceMode target) (.named record.name)) sourceIdentity
          content)
        (.record (lib.typeName (conversion.destMode target) (.named record.name)) identity old)
        after ↔
      lib.FillsTo M target conversion key record
        (.record (lib.typeName (conversion.sourceMode target) (.named record.name)) sourceIdentity
          content)
        (.record (lib.typeName (conversion.destMode target) (.named record.name)) identity old)
        after :=
  (fills_iff accepted plain routines declared rfl).trans
    (copiesFields_iff_fillsTo accepted distinct declared parts typed fillable)

include plain types routines in
/-- A call that converts a record fills a new instance. -/
theorem allocates_iff_fillsTo :
    lib.Allocates M target conversion isClass record (.number "int" key)
        (.record (lib.typeName (conversion.sourceMode target) (.named record.name)) sourceIdentity
          content) after ↔
      ∃ start, M.construct? (lib.typeName (conversion.destMode target) (.named record.name)) =
          some start ∧
        lib.FillsTo M target conversion key record
          (.record (lib.typeName (conversion.sourceMode target) (.named record.name)) sourceIdentity
            content) start after := by
  obtain ⟨isNative, mode⟩ := conversion.exists_destMode target
  have fills : ∀ {start final}, M.construct?
      (lib.typeName (conversion.destMode target) (.named record.name)) = some start →
      (M.Fills conversion.copyRoutine (if isClass then .byValue else .ref) (.number "int" key)
          (.record (lib.typeName (conversion.sourceMode target) (.named record.name)) sourceIdentity
            content) start final ↔
        lib.FillsTo M target conversion key record
          (.record (lib.typeName (conversion.sourceMode target) (.named record.name)) sourceIdentity
            content) start final) := by
    intro start final constructed
    have madeHere := constructed
    rw [mode] at madeHere
    obtain ⟨old, rfl, -⟩ := exists_content types isNative declared madeHere
    have fillable := fillable_of_construct? types isNative distinct declared madeHere
    rw [← mode] at fillable ⊢
    exact fills_iff_fillsTo accepted plain distinct routines declared parts typed fillable
  have returned : ∀ {start final}, M.construct?
      (lib.typeName (conversion.destMode target) (.named record.name)) = some start →
      lib.FillsTo M target conversion key record
        (.record (lib.typeName (conversion.sourceMode target) (.named record.name)) sourceIdentity
          content) start final →
      (if isClass then start.afterCall final else final).returnedAs
        (lib.typeName (conversion.destMode target) (.named record.name)) = some final := by
    intro start final constructed filled
    rw [mode] at constructed
    obtain ⟨old, rfl, -⟩ := exists_content types isNative declared constructed
    obtain ⟨_, _, _, new, same, rfl⟩ := exists_of_fillsTo filled
    obtain ⟨rfl, rfl, -⟩ := Value.record.inj same
    rw [mode]
    cases isClass <;> simp [Value.afterCall, Value.isShared, Value.returnedAs, Value.type]
  simp only [Allocates, Value.isNull, Bool.false_eq_true, and_false, if_false]
  constructor
  · rintro ⟨start, final, constructed, filled, isResult⟩
    have fillsTo := (fills constructed).mp filled
    rw [returned constructed fillsTo] at isResult
    obtain rfl := Option.some.inj isResult
    exact ⟨start, constructed, fillsTo⟩
  · rintro ⟨start, constructed, fillsTo⟩
    exact ⟨start, after, constructed, (fills constructed).mpr fillsTo, returned constructed fillsTo⟩

end Record

section Named

variable {name : String} {inPlace : Bool} {depth : Nat} {bound : Option (Value F)}
  {size : Option (Value F)}
  (parts : ∀ {spelled identity content}, source = .record spelled identity content →
    ∀ name, CopiesConvert lib M target conversion key (content name))
  (typed : lib.Typed (conversion.sourceMode target) (.named name) source)
include accepted plain distinct types routines parts typed

/-- A struct is replaced by a new one. -/
theorem copies_struct_iff (kind : lib.kindOfName name = .structType) :
    M.Converts conversion.valueRoutine (.number "int" key) source after ↔
      lib.ConvertsTo M target conversion key inPlace (.named name) bound source before after := by
  cases typed with
  | @struct _ record content _ found fields =>
    obtain ⟨declared, rfl⟩ := mem_of_struct?_eq_some found
    rw [convertsTo_struct_iff kind found,
      @converts_record_iff F lib M target conversion key _ _ accepted plain routines false record
        declared rfl]
    exact @allocates_iff_fillsTo F lib M target conversion key _ accepted plain distinct types
      routines false record _ content declared (parts rfl) fields
  | _ => simp_all [Converted, TypeRef.innermost]

/-- A class in an array is replaced by a new instance. -/
theorem copies_element_iff (kind : lib.kindOfName name = .classType) :
    M.Converts conversion.valueRoutine (.number "int" key) source after ↔
      lib.ConvertsTo M target conversion key false (.named name) bound source before after := by
  cases typed with
  | @«instance» _ record _ content _ found shared fields =>
    obtain ⟨declared, rfl⟩ := mem_of_class?_eq_some found
    rw [convertsTo_element_iff kind found, if_neg (by simp [Value.isNull]),
      @converts_record_iff F lib M target conversion key _ _ accepted plain routines true record
        declared rfl]
    exact @allocates_iff_fillsTo F lib M target conversion key _ accepted plain distinct types
      routines true record _ content declared (parts rfl) fields
  | noInstance =>
    obtain ⟨record, declared, rfl, found⟩ := exists_class kind
    have none : (Value.null (lib.typeName (conversion.sourceMode target) (.named record.name)) :
        Value F).isNull = true := rfl
    rw [convertsTo_element_iff kind found, if_pos none,
      @converts_record_iff F lib M target conversion key _ _ accepted plain routines true record
        declared rfl, Allocates, if_pos ⟨rfl, none⟩]
    simp [Value.returnedAs, nullType, eq_comm]
  | _ => simp_all [Converted, TypeRef.innermost]

/-- A class in place is filled, with a new instance if there is none. -/
theorem copies_inPlace_iff (kind : lib.kindOfName name = .classType)
    (fillable : lib.Fillable (conversion.destMode target) (.named name) before) :
    (if source.isNull then after = before
      else ∃ start final,
        (if before.isNull then
          M.construct? (lib.typeName (conversion.destMode target) (.named name)) = some start
        else start = before) ∧
          M.Fills conversion.copyRoutine .byValue (.number "int" key) source start final ∧
            after = start.afterCall final) ↔
      lib.ConvertsTo M target conversion key true (.named name) bound source before after := by
  obtain ⟨isNative, mode⟩ := conversion.exists_destMode target
  cases typed with
  | @«instance» _ record sourceIdentity content _ found shared fields =>
    obtain ⟨declared, rfl⟩ := mem_of_class?_eq_some found
    rw [convertsTo_inPlace_iff kind found, if_neg (by simp [Value.isNull]),
      if_neg (by simp [Value.isNull])]
    refine exists_congr fun start => ?_
    rw [exists_and_left]
    refine and_congr_right fun started => ?_
    -- The instance that is filled is one of the class, and its fields can be filled.
    have isInstance : ∃ identity old, identity ≠ .inline ∧
        start = .record (lib.typeName (conversion.destMode target) (.named record.name)) identity
          old ∧
        ∀ field ∈ record.fields,
          lib.Fillable (conversion.destMode target) field.type (old field.name) := by
      split at started
      · rw [mode] at started
        obtain ⟨old, rfl, -⟩ :=
          @exists_content F lib target M true record _ types isNative declared started
        refine ⟨.fresh, old, by simp, by rw [mode]; rfl, ?_⟩
        rw [mode]
        exact @fillable_of_construct? F lib target M true record types isNative distinct _ _ old
          declared started
      · rename_i present
        subst started
        cases fillable with
        | replaced notClass => exact absurd kind notClass
        | @«instance» _ _ identity old _ alsoFound shared fillable =>
          obtain rfl := Option.some.inj (found.symm.trans alsoFound)
          exact ⟨identity, old, shared, rfl, fillable⟩
        | noInstance => exact absurd rfl present
    obtain ⟨identity, old, shared, rfl, fillable⟩ := isInstance
    have fills : ∀ {final}, (_ ↔ _) := fun {final} =>
      @fills_iff_fillsTo F lib M target conversion key final accepted plain distinct routines true
        record identity sourceIdentity content old declared (parts rfl) fields fillable
    simp only [if_true] at fills
    simp only [fills]
    have isShared : (Value.record (lib.typeName (conversion.destMode target) (.named record.name))
        identity old : Value F).isShared = true := by simp [Value.isShared, shared]
    constructor
    · rintro ⟨final, filled, rfl⟩
      rwa [afterCall_of_fillsTo filled isShared]
    · intro filled
      exact ⟨after, filled, (afterCall_of_fillsTo filled isShared).symm⟩
  | noInstance =>
    obtain ⟨record, declared, rfl, found⟩ := exists_class kind
    have none : (Value.null (lib.typeName (conversion.sourceMode target) (.named record.name)) :
        Value F).isNull = true := rfl
    rw [convertsTo_inPlace_iff kind found, if_pos none, if_pos none]
  | _ => simp_all [Converted, TypeRef.innermost]

end Named

/-! ### Arrays -/

omit types routines in
theorem hasPlainMarks_append {marks more : List Char} (plainMarks : hasPlainMarks marks = true)
    (plainMore : hasPlainMarks more = true) : hasPlainMarks (marks ++ more) = true := by
  fun_induction hasPlainMarks marks with
  | case1 => exact plainMore
  | case2 rest ih => exact ih plainMarks
  | case3 => simp at plainMarks

include unmarked in
/-- What follows the name in a spelling are array marks. -/
theorem hasPlainMarks_typeName (mode : Mode) {type : TypeRef}
    (known : lib.kindOfName type.innermost ≠ .unknown) :
    hasPlainMarks ((lib.typeName mode type).toList.dropWhile (· != '[')) = true := by
  induction type with
  | named name =>
    have bare := unmarked.typeName mode known
    rw [List.dropWhile_eq_nil_iff.mpr]
    · rfl
    · intro letter member
      have apart : letter ≠ '[' := fun same => bare (same ▸ member)
      simpa using apart
  | array element count ih =>
    rw [typeName_array, String.toList_append, List.dropWhile_append]
    split
    · rfl
    · exact hasPlainMarks_append (ih known) rfl

include unmarked in
/-- A new array is made for a type of elements that has a default. -/
theorem createArray?_iff {mode : Mode} {element : TypeRef} {sizeType : String} {length : Nat}
    (known : lib.kindOfName element.innermost ≠ .unknown) {value : Value F} :
    M.createArray? (lib.typeName mode element) (.number sizeType length) = some value ↔
      ∃ start, M.default? (lib.typeName mode element) = some start ∧ length ≤ maxLength ∧
        value = .array (lib.typeName mode element) .fresh length fun _ => start := by
  have marks := hasPlainMarks_typeName unmarked mode known
  rw [Machine.createArray?]
  simp only [Option.bind_eq_bind, Value.index?_number, Option.bind_some, marks, true_and,
    Option.bind_eq_some_iff, Option.ite_none_right_eq_some, Option.some.injEq]
  exact exists_congr fun start => and_congr_right fun _ => and_congr_right fun _ => eq_comm

omit types routines in
include unmarked in
/-- An array is replaced by a new one, whose elements are converted. -/
theorem copies_array_iff {element : TypeRef} {count : Option String} {inPlace : Bool} {depth : Nat}
    {bound : Option (Value F)}
    (elements : ∀ {elementType identity length content},
      source = .array elementType identity length content →
        ∀ position, CopiesConvert lib M target conversion key (content position))
    (known : lib.kindOfName element.innermost ≠ .unknown)
    (typed : lib.Typed (conversion.sourceMode target) (.array element count) source) :
    lib.Copies M { target, conversion, inPlace, depth } (.number "int" key) (.array element count)
        ((bound.map some).getD (source.member "Length")) source before after ↔
      lib.ConvertsTo M target conversion key inPlace (.array element count) bound source before
        after := by
  cases typed with
  | noArray =>
    simp only [Copies, Value.isNull, if_true]
    constructor
    · rintro rfl
      exact .keptArray rfl
    · intro converts
      cases converts with
      | keptArray => rfl
  | @array _ _ identity sourceLength content fields =>
    have counted : (bound.map some).getD
        ((Value.array (lib.typeName (conversion.sourceMode target) element) identity sourceLength
          content).member "Length") =
        some (bound.getD (.number "int" sourceLength)) := by
      cases bound <;> rfl
    have isElement : ∀ {position : Nat} {part : Value F},
        (Value.array (lib.typeName (conversion.sourceMode target) element) identity sourceLength
          content).element position = some part ↔
        ∃ inside : position < sourceLength, content ⟨position, inside⟩ = part := by
      intro position part
      rw [Value.element, Option.dite_none_right_eq_some]
      simp
    -- An element of the new array is converted from the element at the same position.
    have each : ∀ {position : Nat} (inside : position < sourceLength) {start value : Value F},
        lib.Copies M { target, conversion, inPlace := false, depth := depth + 1 }
            (.number "int" key) element ((content ⟨position, inside⟩).member "Length")
            (content ⟨position, inside⟩) start value ↔
          lib.ConvertsTo M target conversion key false element none (content ⟨position, inside⟩)
            start value := fun {position} inside {start value} =>
      @elements _ _ _ _ rfl ⟨position, inside⟩ element false (depth + 1) none start value known
        (fields ⟨position, inside⟩) (by simp)
    simp only [Copies, counted, Value.isNull, Bool.false_eq_true, if_false, Option.some.injEq,
      isElement, CopyRule.forElements]
    constructor
    · rintro ⟨_, start, rfl, length, after, isLength, created, rfl, converted⟩
      obtain ⟨sizeType, sized⟩ := Value.eq_number_of_index? isLength
      rw [sized, createArray?_iff unmarked known] at created
      obtain ⟨default, started, fits, same⟩ := created
      have inside : length ≤ sourceLength := by
        by_contra beyond
        obtain ⟨_, ⟨inside, -⟩, -⟩ := converted ⟨sourceLength, by omega⟩
        exact absurd inside (Nat.lt_irrefl _)
      refine .newArray sized inside fits started fun position => ?_
      obtain ⟨_, ⟨here, rfl⟩, converts⟩ := converted position
      have isDefault : start = default := by
        have starts := eq_of_heq (Value.array.inj same).2.2.2
        exact congrFun starts position
      exact isDefault ▸ (each here).mp converts
    · intro converts
      cases converts with
      | keptArray none => simp [Value.isNull] at none
      | @newArray _ _ _ _ _ sizeType _ _ length _ start _ after sized inside fits started converts =>
        refine ⟨_, start, rfl, length, after, ?_, ?_, rfl, fun position => ?_⟩
        · rw [sized, Value.index?_number]
        · rw [sized, createArray?_iff unmarked known]
          exact ⟨start, started, fits, rfl⟩
        · exact ⟨_, ⟨_, rfl⟩, (each (position.isLt.trans_le inside)).mpr (converts position)⟩

/-! ### The conversion of a value -/

include accepted plain distinct unmarked types routines in
/-- Copying a value converts it if copying its parts converts them. -/
theorem copiesConvert_of_parts
    (fields : ∀ {spelled identity content}, source = .record spelled identity content →
      ∀ name, CopiesConvert lib M target conversion key (content name))
    (elements : ∀ {elementType identity length content},
      source = .array elementType identity length content →
        ∀ position, CopiesConvert lib M target conversion key (content position)) :
    CopiesConvert lib M target conversion key source := by
  intro type inPlace depth bound before after known typed fillable
  cases type with
  | array element count => exact copies_array_iff unmarked elements known typed
  | named name =>
    simp only [Copies]
    cases kind : lib.kindOfName name with
    | handle =>
      exact (converts_handle_iff accepted plain routines kind typed).trans
        (convertsTo_handle_iff kind).symm
    | bool =>
      exact (converts_bool_iff accepted plain routines kind typed).trans
        (convertsTo_bool_iff kind).symm
    | structType => exact copies_struct_iff accepted plain distinct types routines fields typed kind
    | classType =>
      cases inPlace with
      | false =>
        exact copies_element_iff accepted plain distinct types routines fields typed kind
      | true =>
        exact copies_inPlace_iff accepted plain distinct types routines fields typed kind
          (fillable rfl)
    | _ =>
      exact (convertsTo_other_iff (by simp [Converted, TypeRef.innermost, kind])
        (by simp [kind])).symm

include accepted plain distinct unmarked types routines in
/-- Copying one value converts it. -/
theorem copies_iff (source : Value F) : CopiesConvert lib M target conversion key source :=
  source.of_parts fun _ => copiesConvert_of_parts accepted plain distinct unmarked types routines

end Values

end Library

end InteropGlue
