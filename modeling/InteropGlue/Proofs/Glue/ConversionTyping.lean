import InteropGlue.Proofs.CSharp.BlockTyping
import InteropGlue.Proofs.Glue.Copying
import InteropGlue.Proofs.Glue.FunctionTyping
import InteropGlue.Proofs.Glue.Instances
/-!
# Conversions of records are well typed

The declaration of a field, the allocation of an array, the copying of a value and the header of a
routine spell their types independently, each in the mode of its own surface. The spellings agree on
every type, at every depth of arrays, since each adds one pair of brackets for each level.

## Main Definitions

* `Library.copiedRecords` — the declarations that the fields of a copy are looked up in.
* `Library.Ready` — a scope in which the locals of a copy are new.

## Main Results

* `Library.allocatedType_typeName` — an allocation has the type of an array of its elements.
* `Library.copyValue_typed` — copying a value of any type is well typed.
* `Library.conversionRoutines_typed` — so are the routines of every record.

## Design Notes

The induction is over the type of what is copied. A level of arrays adds two locals, whose names
carry the depth; that all deeper names are still new is the invariant `Ready`.
-/

namespace InteropGlue

open CSharp

namespace Library

variable {lib : Library} {names : ClassNames} {target : Target} {conversion : Conversion}
  {mode : Mode} {scope : Scope} {records : List (String × TypeDecl)} {returns : String}
  {type : TypeRef} {source dest : Expr} {depth : Nat}

/-! ### Spellings -/

/-- An allocation has the type of an array of its elements. -/
theorem allocatedType_typeName (unmarked : lib.UnmarkedNames) {element : TypeRef}
    (known : lib.kindOfName element.innermost ≠ .unknown) (count : Option String) :
    allocatedType (lib.typeName mode element) = lib.typeName mode (.array element count) := by
  induction element generalizing count with
  | named name => exact allocatedType_of_bare (unmarked.typeName mode known)
  | array inner innerCount ih =>
    calc allocatedType (lib.typeName mode (.array inner innerCount))
        = allocatedType (lib.typeName mode inner ++ "[]") := by rw [typeName_array]
      _ = allocatedType (lib.typeName mode inner) ++ "[]" := allocatedType_append _
      _ = lib.typeName mode (.array inner innerCount) ++ "[]" := by rw [ih known innerCount]
      _ = lib.typeName mode (.array (.array inner innerCount) count) := rfl

/-- The declaration of a record on either surface is one that bodies may create. -/
theorem recordDecl_mem_surroundings (isNative : Bool) {isClass : Bool} {record : Record}
    (declared : record ∈ if isClass then lib.classes else lib.structs) :
    lib.recordDecl ⟨isNative, target⟩ isClass record ∈ (lib.surroundings names target).records := by
  have isDeclared := recordDecl_mem ⟨isNative, target⟩ declared
  cases isNative with
  | false => exact List.mem_append_left _ isDeclared
  | true => exact List.mem_append_right _ isDeclared

/-- There may be no instance of a declared class. -/
theorem nullable_record (isNative : Bool) {record : Record} (declared : record ∈ lib.classes) :
    Nullable (lib.surroundings names target)
      (lib.typeName ⟨isNative, target⟩ (.named record.name)) :=
  .class (@recordDecl_mem_surroundings lib names target isNative true record declared) rfl

theorem nullable_class (isNative : Bool) (kind : lib.kindOf type = .classType) :
    Nullable (lib.surroundings names target) (lib.typeName ⟨isNative, target⟩ type) := by
  obtain ⟨name, rfl⟩ := Crossing.exists_named (.inr (.inr kind))
  obtain ⟨record, declared, rfl⟩ := exists_record true kind
  exact nullable_record isNative declared

/-! ### Calls and instances -/

/-- A conversion is a method of the class. -/
theorem call_typed {signature : Signature} {args : List Arg}
    (listed : signature ∈ (lib.routines target).filterMap Member.signature?)
    (fit : List.Forall₂ (ArgTyped records scope) args signature.params) :
    ValueTyped (lib.surroundings names target) records scope (.call (.name signature.name) args)
      signature.returns :=
  .conversion listed (conversions_subset_methods names listed) fit

/-- The conversion of a place gives a value of the other spelling of its type. -/
theorem convert_typed (crossing : lib.Crossing type) (machine : (machineParam, "int") ∈ scope)
    (operand : PlaceTyped records scope source (lib.typeName (conversion.sourceMode target) type)) :
    ValueTyped (lib.surroundings names target) records scope
      (.callOwn conversion.valueRoutine [machineExpr, source])
      (lib.typeName (conversion.destMode target) type) := by
  obtain ⟨name, listed⟩ := @exists_valueRoutine lib target conversion type crossing
  refine call_typed listed ?_
  exact .cons (.pass rfl (.variable machine)) (.cons (.pass rfl operand) .nil)

/-- The conversion of a boolean. -/
theorem convertBool_typed (kind : lib.kindOf type = .bool)
    (operand : PlaceTyped records scope source (lib.typeName (conversion.sourceMode target) type)) :
    ValueTyped (lib.surroundings names target) records scope
      (.callOwn conversion.boolRoutine [source])
      (lib.typeName (conversion.destMode target) type) := by
  obtain rfl := kindOf_eq_bool_iff.mp kind
  have native := @typeName_native_bool lib target
  have isRoutine : ∀ routine ∈ [toBoolRoutine, toNativeBoolRoutine],
      routine ∈ lib.routines target := by
    intro routine member
    refine List.mem_append_right _ ?_
    rcases List.mem_pair.mp member with rfl | rfl <;> simp [scalarConversions]
  cases conversion with
  | wrap =>
    have listed := signature_mem_conversions toBoolRoutine
      (isRoutine _ List.mem_cons_self) rfl
    rw [Conversion.sourceMode_wrap, native] at operand
    exact call_typed listed (.cons (.pass rfl operand) .nil)
  | unwrap =>
    have listed := signature_mem_conversions toNativeBoolRoutine
      (isRoutine _ (List.mem_cons_of_mem _ (List.mem_singleton_self _))) rfl
    rw [Conversion.destMode_unwrap, native]
    exact call_typed listed (.cons (.pass rfl operand) .nil)

/-- Filling an instance of a class. -/
theorem fill_typed (kind : lib.kindOf type = .classType) (machine : (machineParam, "int") ∈ scope)
    (operand : PlaceTyped records scope source (lib.typeName (conversion.sourceMode target) type))
    (filled : PlaceTyped records scope dest (lib.typeName (conversion.destMode target) type)) :
    ValueTyped (lib.surroundings names target) records scope
      (.callOwn conversion.copyRoutine [machineExpr, source, dest]) "void" := by
  have listed := @copyRoutine_mem_conversions lib target conversion type kind
  refine call_typed listed ?_
  exact .cons (.pass rfl (.variable machine))
    (.cons (.pass rfl operand) (.cons (.pass rfl filled) .nil))

/-- A new instance of a declared record. -/
theorem createRecord_typed (isNative : Bool) {isClass : Bool} {record : Record}
    (declared : record ∈ if isClass then lib.classes else lib.structs) :
    ValueTyped (lib.surroundings names target) records scope
      (.create (lib.typeName ⟨isNative, target⟩ (.named record.name)) [])
      (lib.typeName ⟨isNative, target⟩ (.named record.name)) :=
  .create (recordDecl_mem_surroundings isNative declared)

/-! ### Locals -/

/-- A scope with the key, in which the locals of a copy are new from a depth on. -/
structure Ready (scope : Scope) (depth : Nat) : Prop where
  machine : (machineParam, "int") ∈ scope
  counts : ∀ level, depth ≤ level → "count" ++ toString level ∉ scope.names
  indices : ∀ level, depth ≤ level → "i" ++ toString level ∉ scope.names

/-- Inside a loop the locals of the next depth are still new. -/
theorem Ready.inLoop (ready : Ready scope depth) (sizeType : String) :
    Ready (("i" ++ toString depth, "int") :: ("count" ++ toString depth, sizeType) :: scope)
      (depth + 1) where
  machine := List.mem_cons_of_mem _ (List.mem_cons_of_mem _ ready.machine)
  counts level deeper := by
    simp only [Scope.names, List.map_cons, List.mem_cons, not_or]
    refine ⟨(index_ne_count depth level).symm, fun same => ?_, ready.counts level (by omega)⟩
    exact absurd (numbered_injective same) (by omega)
  indices level deeper := by
    simp only [Scope.names, List.map_cons, List.mem_cons, not_or]
    refine ⟨fun same => ?_, index_ne_count level depth, ready.indices level (by omega)⟩
    exact absurd (numbered_injective same) (by omega)

/-! ### Copying a value -/

/-- One assignment. -/
theorem assign_typed {value : Expr} {spelled : String}
    (target' : PlaceTyped records scope dest spelled)
    (assigned : ValueTyped (lib.surroundings names target) records scope value spelled) :
    BlockTyped (lib.surroundings names target) records returns scope
      (.ofSteps [.assign dest value]) scope :=
  .assign target' assigned .done

/-- A class is filled where it is, with a new instance if there is none. -/
theorem fillClass_typed (inPlace : Bool) (kind : lib.kindOf type = .classType)
    (machine : (machineParam, "int") ∈ scope)
    (operand : PlaceTyped records scope source (lib.typeName (conversion.sourceMode target) type))
    (place : PlaceTyped records scope dest (lib.typeName (conversion.destMode target) type)) :
    BlockTyped (lib.surroundings names target) records returns scope
      (lib.fillClass { target, conversion, inPlace, depth } type source dest) scope := by
  obtain ⟨sourceNative, sourceMode⟩ := conversion.exists_sourceMode target
  obtain ⟨destNative, destMode⟩ := conversion.exists_destMode target
  obtain ⟨name, rfl⟩ := Crossing.exists_named (.inr (.inr kind))
  have given : Nullable (lib.surroundings names target)
      (lib.typeName (conversion.sourceMode target) (.named name)) :=
    sourceMode ▸ nullable_class sourceNative kind
  have missing : Nullable (lib.surroundings names target)
      (lib.typeName (conversion.destMode target) (.named name)) :=
    destMode ▸ nullable_class destNative kind
  have filled := @fill_typed lib names target conversion scope records (.named name) source dest
    kind machine operand place
  obtain ⟨record, declared, rfl⟩ := exists_record true kind
  have created : ValueTyped (lib.surroundings names target) records scope
      (.create (lib.typeName (conversion.destMode target) (.named record.name)) [])
      (lib.typeName (conversion.destMode target) (.named record.name)) := by
    rw [destMode]
    exact @createRecord_typed lib names target scope records destNative true record declared
  exact .guarded (.notEqual operand given)
    (.guarded (.equal place missing) (assign_typed place created) (.evaluate filled .done)) .done

/-- Copying a value of a type with a name is an assignment or fills an instance. -/
theorem copyNamed_typed {name : String} {count : Option Expr} (inPlace : Bool)
    (machine : (machineParam, "int") ∈ scope)
    (operand : PlaceTyped records scope source
      (lib.typeName (conversion.sourceMode target) (.named name)))
    (place : PlaceTyped records scope dest
      (lib.typeName (conversion.destMode target) (.named name))) :
    BlockTyped (lib.surroundings names target) records returns scope
      (lib.copyValue { target, conversion, inPlace, depth } source dest count (.named name))
        scope := by
  have converted : lib.Crossing (.named name) →
      BlockTyped (lib.surroundings names target) records returns scope
        (.ofSteps [.assign dest (.callOwn conversion.valueRoutine [machineExpr, source])])
        scope :=
    fun crossing => assign_typed place (convert_typed crossing machine operand)
  rw [copyValue]
  cases kind : lib.kindOfName name with
  | handle => exact converted (.inl kind)
  | structType => exact converted (.inr (.inl kind))
  | classType =>
    cases inPlace with
    | false => exact converted (.inr (.inr kind))
    | true => exact fillClass_typed true kind machine operand place
  | bool =>
    have isBool : lib.kindOf (.named name) = .bool := kind
    exact assign_typed place (convertBool_typed isBool operand)
  | _ =>
    -- All other types are spelled alike on both surfaces.
    have plain : lib.PlainArray (.named name) := by
      refine ⟨by simp [Converted, TypeRef.innermost, kind], fun isBool => ?_⟩
      have isBoolKind : lib.kindOfName name = .bool := kindOfName_eq_bool_iff.mpr isBool
      simp [kind] at isBoolKind
    rw [typeName_eq_of_plain plain (conversion.sourceMode target)
      (conversion.destMode target)] at operand
    exact assign_typed place (.place operand)

/-- The number of elements of a copied array: its count, or else its length. -/
theorem size_typed {count : Option Expr} {element : TypeRef} {elementCount : Option String}
    (operand : PlaceTyped records scope source
      (lib.typeName mode (.array element elementCount)))
    (counted : ∀ size, count = some size →
      ∃ sizeType ∈ integerPrimitives, PlaceTyped records scope size sizeType) :
    ∃ sizeType ∈ integerPrimitives, ValueTyped (lib.surroundings names target) records scope
      (count.getD (.member source "Length")) sizeType := by
  cases count with
  | none => exact ⟨"int", by decide, .length operand⟩
  | some size =>
    obtain ⟨sizeType, integer, typed⟩ := counted size rfl
    exact ⟨sizeType, integer, .place typed⟩

/-- Copying a value of any type is well typed, and leaves no local behind. -/
theorem copyValue_typed (unmarked : lib.UnmarkedNames)
    (known : lib.kindOfName type.innermost ≠ .unknown) {count : Option Expr} (inPlace : Bool)
    (ready : Ready scope depth)
    (operand : PlaceTyped records scope source (lib.typeName (conversion.sourceMode target) type))
    (place : PlaceTyped records scope dest (lib.typeName (conversion.destMode target) type))
    (counted : ∀ size, count = some size →
      ∃ sizeType ∈ integerPrimitives, PlaceTyped records scope size sizeType) :
    BlockTyped (lib.surroundings names target) records returns scope
      (lib.copyValue { target, conversion, inPlace, depth } source dest count type) scope := by
  induction type generalizing scope source dest count inPlace depth with
  | named name => exact copyNamed_typed inPlace ready.machine operand place
  | array element elementCount ih =>
    obtain ⟨sizeType, integer, sizeTyped⟩ :=
      @size_typed lib names target _ scope records source count element elementCount operand counted
    have knownElement : lib.kindOfName element.innermost ≠ .unknown := known
    rw [copyValue]
    -- The scopes after the count and inside the loop.
    set sized : Scope := ("count" ++ toString depth, sizeType) :: scope with isSized
    set inside : Scope := ("i" ++ toString depth, "int") :: sized with isInside
    have countPlace : PlaceTyped records sized (.name ("count" ++ toString depth)) sizeType :=
      .variable List.mem_cons_self
    have allocated : ValueTyped (lib.surroundings names target) records sized
        (.createArray (lib.typeName (conversion.destMode target) element)
          (.name ("count" ++ toString depth)))
        (lib.typeName (conversion.destMode target) (.array element elementCount)) := by
      rw [← allocatedType_typeName unmarked knownElement elementCount]
      exact .createArray integer countPlace
    have fresh : "i" ++ toString depth ∉ sized.names := by
      simp only [isSized, Scope.names, List.map_cons, List.mem_cons, not_or]
      exact ⟨index_ne_count depth depth, ready.indices depth (Nat.le_refl _)⟩
    have elementOf : ∀ {e : Expr} {mode : Mode},
        PlaceTyped records scope e (lib.typeName mode (.array element elementCount)) →
          PlaceTyped records inside (.element e (.name ("i" ++ toString depth)))
            (lib.typeName mode element) := by
      intro e mode typed
      rw [typeName_array] at typed
      refine .element (typed.weaken fun entry member => ?_) (.variable List.mem_cons_self)
      exact List.mem_cons_of_mem _ (List.mem_cons_of_mem _ member)
    have body := @ih inside (.element source (.name ("i" ++ toString depth)))
      (.element dest (.name ("i" ++ toString depth))) (depth + 1) knownElement none false
      (ready.inLoop sizeType) (elementOf operand) (elementOf place) (by simp)
    refine .guarded (.notEqual operand .array)
      (?_ : BlockTyped (lib.surroundings names target) records returns scope _ sized) .done
    refine .bind (ready.counts depth (Nat.le_refl _)) sizeTyped ?_
    refine .assign (place.weaken (List.subset_cons_self _ _)) allocated ?_
    exact .counted fresh integer countPlace body .done

/-! ### Routines -/

/-- The declarations of the records that a copy leads from and to, each on its own surface. -/
def copiedRecords (lib : Library) (target : Target) (conversion : Conversion) (isClass : Bool)
    (record : Record) : List (String × TypeDecl) :=
  [("infoSrc", lib.recordDecl (conversion.sourceMode target) isClass record),
    ("infoDest", lib.recordDecl (conversion.destMode target) isClass record)]

section Routines

variable {isClass : Bool} {record : Record}

/-- A field of a record that a variable holds has the type of its declaration. -/
theorem field_typed {owner : String} {field : Field}
    (held : (owner, lib.recordDecl mode isClass record) ∈ records)
    (inScope : (owner, lib.typeName mode (.named record.name)) ∈ scope)
    (member : field ∈ record.fields) :
    PlaceTyped records scope (.member (.name owner) field.name) (lib.typeName mode field.type) := by
  have listed : lib.fieldMember mode isClass field ∈
      (lib.recordDecl mode isClass record).members := by
    rw [members_recordDecl]
    exact List.mem_map_of_mem member
  exact .field held inScope listed

/-- The variables of a routine that copies a record. -/
def copyScope (lib : Library) (target : Target) (conversion : Conversion) (record : Record) :
    Scope :=
  [(machineParam, "int"),
    ("infoSrc", lib.typeName (conversion.sourceMode target) (.named record.name)),
    ("infoDest", lib.typeName (conversion.destMode target) (.named record.name))]

theorem ready_copyScope : Ready (lib.copyScope target conversion record) 0 where
  machine := List.mem_cons_self
  counts level _ := by
    simp only [copyScope, Scope.names, List.map_cons, List.map_nil, List.mem_cons, List.not_mem_nil,
      or_false, not_or]
    exact ⟨count_ne level (by decide), count_ne level (by decide), count_ne level (by decide)⟩
  indices level _ := by
    simp only [copyScope, Scope.names, List.map_cons, List.map_nil, List.mem_cons, List.not_mem_nil,
      or_false, not_or]
    exact ⟨index_ne_machineParam level, index_ne_infoSrc level, index_ne_infoDest level⟩

/-- The two routines of each direction are among the four of a record. -/
theorem routines_of_conversion :
    [lib.allocatingRoutine target conversion isClass record,
      lib.copyRoutine target conversion isClass record] ⊆
        lib.conversionRoutines target isClass record := by
  cases conversion <;> simp [conversionRoutines]

variable (accepted : lib.Accepted) (unmarked : lib.UnmarkedNames)
  (declared : record ∈ if isClass then lib.classes else lib.structs)
include accepted unmarked declared

/-- Copying a field is well typed. -/
theorem copyField_typed {field : Field} (member : field ∈ record.fields) :
    BlockTyped (lib.surroundings names target)
      (lib.copiedRecords target conversion isClass record) returns
      (lib.copyScope target conversion record) (lib.copyField target conversion field)
      (lib.copyScope target conversion record) := by
  have listed : record ∈ lib.structs ++ lib.classes := mem_records_iff.mpr ⟨isClass, declared⟩
  have sourceField : ∀ {other : Field}, other ∈ record.fields →
      PlaceTyped (lib.copiedRecords target conversion isClass record)
        (lib.copyScope target conversion record) (.member (.name "infoSrc") other.name)
        (lib.typeName (conversion.sourceMode target) other.type) :=
    field_typed List.mem_cons_self (List.mem_cons_of_mem _ List.mem_cons_self)
  have destField := @field_typed lib (conversion.destMode target)
    (lib.copyScope target conversion record) (lib.copiedRecords target conversion isClass record)
    isClass record "infoDest" field (List.mem_cons_of_mem _ List.mem_cons_self)
    (List.mem_cons_of_mem _ (List.mem_cons_of_mem _ List.mem_cons_self)) member
  refine copyValue_typed unmarked (accepted.sound.field_resolves record listed field member).1 true
    ready_copyScope (sourceField member) destField ?_
  intro size isSize
  obtain ⟨count, isCount, rfl⟩ := Option.map_eq_some_iff.mp isSize
  obtain ⟨element, isArray⟩ : ∃ element, field.type = .array element (some count) := by
    cases shape : field.type <;> simp_all [Field.countField?]
  -- The count is a field of the same record, of an integer type.
  obtain ⟨sibling, found, name, integer, isNamed⟩ :=
    accepted.sound.count_bound record listed field member element count isArray
  obtain rfl : sibling.name = count := by simpa using List.find?_some found
  refine ⟨name, integer, ?_⟩
  have plain : lib.PlainArray sibling.type := by
    have kind := @kindOfName_of_integer lib name integer
    rw [isNamed]
    exact plainArray_of_kind (by simp [kindOf, kind]) (by simp [Crossing, kindOf, kind])
      (by simp [kindOf, kind])
  have typed := sourceField (List.mem_of_find?_eq_some found)
  rw [typeName_eq_of_plain plain _ (.application target), isNamed] at typed
  exact typed

/-- The routine that fills an instance of a record is well typed. -/
theorem copyRoutine_typed : RoutineTyped (lib.surroundings names target)
    (lib.copiedRecords target conversion isClass record)
    (lib.copyRoutine target conversion isClass record) := by
  have body : BlockTyped (lib.surroundings names target)
      (lib.copiedRecords target conversion isClass record) "void"
      (lib.copyScope target conversion record)
      (.concat (record.fields.map (lib.copyField target conversion)))
      (lib.copyScope target conversion record) := by
    refine BlockTyped.concat fun block isBlock => ?_
    obtain ⟨field, member, rfl⟩ := List.mem_map.mp isBlock
    exact copyField_typed accepted unmarked declared member
  have distinct : [machineParam, "infoSrc", "infoDest"].Nodup := by decide
  exact .intro distinct body fun notVoid => absurd rfl notVoid

omit accepted unmarked in
/-- The routine that makes a converted instance of a record is well typed. -/
theorem allocatingRoutine_typed : RoutineTyped (lib.surroundings names target)
    (lib.copiedRecords target conversion isClass record)
    (lib.allocatingRoutine target conversion isClass record) := by
  obtain ⟨sourceNative, sourceMode⟩ := conversion.exists_sourceMode target
  obtain ⟨destNative, destMode⟩ := conversion.exists_destMode target
  set sourceType := lib.typeName (conversion.sourceMode target) (.named record.name)
  set destType := lib.typeName (conversion.destMode target) (.named record.name)
  set start : Scope := [(machineParam, "int"), ("info", sourceType)]
  have created : ValueTyped (lib.surroundings names target)
      (lib.copiedRecords target conversion isClass record) start (.create destType []) destType := by
    simp only [destType, destMode]
    exact createRecord_typed destNative declared
  have listed := signature_mem_conversions (lib.copyRoutine target conversion isClass record)
    (routine_mem declared (routines_of_conversion (List.mem_cons_of_mem _ List.mem_cons_self))) rfl
  have filled : ValueTyped (lib.surroundings names target)
      (lib.copiedRecords target conversion isClass record) ((resultName, destType) :: start)
      (.call (.name conversion.copyRoutine) [.value machineExpr, .value (.name "info"),
        .pass (if isClass then .byValue else .ref) (.name resultName)]) "void" := by
    refine call_typed listed ?_
    exact .cons (.pass rfl (.variable (by simp [start, machineParameter])))
      (.cons (.pass rfl (.variable (by simp [start, sourceType, plainParameter])))
        (.cons (.pass rfl (.variable (by simp [destType, plainParameter]))) .nil))
  have body : BlockTyped (lib.surroundings names target)
      (lib.copiedRecords target conversion isClass record) destType start
      (.ofSteps [.bind resultName (.create destType []),
        .evaluate (.call (.name conversion.copyRoutine) [.value machineExpr, .value (.name "info"),
          .pass (if isClass then .byValue else .ref) (.name resultName)]),
        .leave (some (.name resultName))]) ((resultName, destType) :: start) :=
    .bind (by simp [start, Scope.names]; decide) created
      (.evaluate filled (.leave (.place (.variable List.mem_cons_self)) .done))
  have guard : BlockTyped (lib.surroundings names target)
      (lib.copiedRecords target conversion isClass record) destType start
      (if isClass then .ifHolds (.compare .equal (.name "info") .null)
        (.ofSteps [.leave (some .null)]) else .done) start := by
    cases isClass with
    | false => exact .done
    | true =>
      have nullable : ∀ isNative : Bool, Nullable (lib.surroundings names target)
          (lib.typeName ⟨isNative, target⟩ (.named record.name)) :=
        fun isNative => nullable_record isNative declared
      have given : Nullable (lib.surroundings names target) sourceType := by
        simp only [sourceType, sourceMode]
        exact nullable sourceNative
      have result : Nullable (lib.surroundings names target) destType := by
        simp only [destType, destMode]
        exact nullable destNative
      exact .guarded (.equal (.variable (List.mem_cons_of_mem _ List.mem_cons_self)) given)
        (.leaveNull result .done) .done
  have distinct : [machineParam, "info"].Nodup := by decide
  refine .intro distinct (guard.append body) fun _ => ?_
  cases isClass <;> trivial

/-- The routines of every record are methods of the class that are well typed: what they assign is
spelled like the field of the declaration on its own surface, what they call and create is declared,
and their locals are in scope and hide none. -/
theorem conversionRoutines_typed (conversion : Conversion) :
    ∀ routine ∈ [lib.allocatingRoutine target conversion isClass record,
        lib.copyRoutine target conversion isClass record],
      routine ∈ (lib.nativeFunctionsClass names target).members ∧
        RoutineTyped (lib.surroundings names target)
          (lib.copiedRecords target conversion isClass record) routine := by
  intro routine isRoutine
  refine ⟨routines_subset names (routine_mem declared (routines_of_conversion isRoutine)), ?_⟩
  rcases List.mem_pair.mp isRoutine with rfl | rfl
  · exact allocatingRoutine_typed declared
  · exact copyRoutine_typed accepted unmarked declared

end Routines

end Library

namespace Sample

/-- The routines that unwrap the class of the small library are well typed: it holds an array of
structs that is counted by a field. -/
theorem items_routines_typed :
    RoutineTyped (library.surroundings ⟨"Access"⟩ .legacy)
        (library.copiedRecords .legacy .unwrap true items)
        (library.allocatingRoutine .legacy .unwrap true items) ∧
      RoutineTyped (library.surroundings ⟨"Access"⟩ .legacy)
        (library.copiedRecords .legacy .unwrap true items)
        (library.copyRoutine .legacy .unwrap true items) := by
  have declared : items ∈ if true then library.classes else library.structs :=
    List.mem_singleton.mpr rfl
  have typed := @Library.conversionRoutines_typed library ⟨"Access"⟩ .legacy true items
    library_accepted library_unmarked declared .unwrap
  exact ⟨(typed _ List.mem_cons_self).2, (typed _ (List.mem_cons_of_mem _ List.mem_cons_self)).2⟩

end Sample

end InteropGlue
