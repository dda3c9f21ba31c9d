import InteropGlue.Proofs.Glue.FunctionTyping
import InteropGlue.Proofs.Glue.RecordConversion
/-!
# Copies of records

The routine that copies a record fills it with the structural conversion of its source. It ends if
the counts in the source are right and the records can be made.

## Main Definitions

* `Library.Counted` — a value whose arrays have as many elements as their counts say.
* `Library.Makes` — every record of a library can be made.

## Main Results

* `Library.exists_fillsTo` — a counted record has a conversion.
* `Library.copyRoutine_fills` — the routines that copy a record convert it.
-/

namespace InteropGlue

open CSharp

variable {F : Framework}

namespace Library

/-- A value whose arrays have at least as many elements as their counts say. -/
inductive Counted (lib : Library) : TypeRef → Option (Value F) → Value F → Prop
  | missing {type : TypeRef} {bound : Option (Value F)} {value : Value F}
      (none : value.isNull = true) : Counted lib type bound value
  | plain {name : String} {bound : Option (Value F)} {value : Value F}
      (notStruct : lib.kindOfName name ≠ .structType) (notClass : lib.kindOfName name ≠ .classType) :
      Counted lib (.named name) bound value
  | struct {name type : String} {bound : Option (Value F)} {record : Record} {identity : Identity}
      {content : String → Value F}
      (kind : lib.kindOfName name = .structType) (found : lib.struct? name = some record)
      (fields : ∀ field ∈ record.fields,
        Counted lib field.type (field.countField?.map content) (content field.name)) :
      Counted lib (.named name) bound (.record type identity content)
  | instance {name type : String} {bound : Option (Value F)} {record : Record}
      {identity : Identity} {content : String → Value F}
      (kind : lib.kindOfName name = .classType) (found : lib.class? name = some record)
      (fields : ∀ field ∈ record.fields,
        Counted lib field.type (field.countField?.map content) (content field.name)) :
      Counted lib (.named name) bound (.record type identity content)
  | array {element : TypeRef} {count : Option String} {bound : Option (Value F)}
      {type sizeType : String} {identity : Identity} {length size : Nat}
      {content : Fin length → Value F}
      (counted : bound.getD (.number "int" length) = .number sizeType size)
      (inside : size ≤ length) (fits : size ≤ maxLength)
      (elements : ∀ position : Fin size,
        Counted lib element none (content (Fin.castLE inside position))) :
      Counted lib (.array element count) bound (.array type identity length content)

/-- Every record of a library can be made, on both surfaces. -/
def Makes (lib : Library) (target : Target) (M : Machine F) : Prop :=
  ∀ isNative isClass : Bool, ∀ record ∈ if isClass then lib.classes else lib.structs,
    ∃ value, M.construct? (lib.typeName ⟨isNative, target⟩ (.named record.name)) = some value

variable {lib : Library} {M : Machine F} {target : Target} {conversion : Conversion} {key : Int}
  {source before after : Value F}

/-! ### Fields -/

section Fields

variable {name type : String} {bound : Option (Value F)} {record : Record} {identity : Identity}
  {content : String → Value F}

theorem Counted.fields_struct
    (counted : lib.Counted (.named name) bound (.record type identity content))
    (kind : lib.kindOfName name = .structType) (found : lib.struct? name = some record) :
    ∀ field ∈ record.fields,
      lib.Counted field.type (field.countField?.map content) (content field.name) := by
  cases counted with
  | missing none => simp [Value.isNull] at none
  | plain notStruct => exact absurd kind notStruct
  | struct _ alsoFound fields =>
    obtain rfl := Option.some.inj (found.symm.trans alsoFound)
    exact fields
  | «instance» isClass => simp [kind] at isClass

theorem Counted.fields_class
    (counted : lib.Counted (.named name) bound (.record type identity content))
    (kind : lib.kindOfName name = .classType) (found : lib.class? name = some record) :
    ∀ field ∈ record.fields,
      lib.Counted field.type (field.countField?.map content) (content field.name) := by
  cases counted with
  | missing none => simp [Value.isNull] at none
  | plain _ notClass => exact absurd kind notClass
  | struct isStruct => simp [kind] at isStruct
  | «instance» _ alsoFound fields =>
    obtain rfl := Option.some.inj (found.symm.trans alsoFound)
    exact fields

end Fields

/-! ### Conversions that exist -/

theorem exists_declaration (types : DeclaresRecords lib target M) {decl : TypeDecl}
    (member : decl ∈ M.types) :
    ∃ isNative isClass, ∃ record ∈ (if isClass then lib.classes else lib.structs),
      decl = lib.recordDecl ⟨isNative, target⟩ isClass record := by
  rw [types, recordDecls, recordDecls, List.mem_append, List.mem_append, List.mem_append,
    List.mem_map, List.mem_map, List.mem_map, List.mem_map] at member
  rcases member with (⟨record, declared, rfl⟩ | ⟨record, declared, rfl⟩) |
    (⟨record, declared, rfl⟩ | ⟨record, declared, rfl⟩)
  · exact ⟨false, false, record, declared, rfl⟩
  · exact ⟨false, true, record, declared, rfl⟩
  · exact ⟨true, false, record, declared, rfl⟩
  · exact ⟨true, true, record, declared, rfl⟩

/-- Where every record can be made, every type has a default. -/
theorem Makes.exists_default (makes : lib.Makes target M) (types : DeclaresRecords lib target M)
    (type : String) : ∃ value, M.default? type = some value := by
  -- A declared name that is a record's is declared once, as the record can be made.
  have single : ∀ decl ∈ M.types, decl.name = type →
      (∃ value, M.construct? type = some value) ∧ ∃ only, M.types.filter (·.name == type) = [only] := by
    intro decl member named
    obtain ⟨isNative, isClass, record, declared, rfl⟩ := exists_declaration types member
    obtain ⟨value, constructed⟩ := makes isNative isClass record declared
    have spelled : lib.typeName ⟨isNative, target⟩ (.named record.name) = type := named
    rw [spelled] at constructed
    refine ⟨⟨value, constructed⟩, ?_⟩
    rw [Machine.construct?] at constructed
    split at constructed
    · rename_i only found
      exact ⟨only, found⟩
    · simp at constructed
  rw [Machine.default?]
  split
  · rename_i decl found
    have listed : decl ∈ M.types.filter (·.name == type) := by
      rw [found]
      exact List.mem_singleton_self _
    obtain ⟨member, named⟩ := List.mem_filter.mp listed
    obtain ⟨constructed, -⟩ := single decl member (by simpa using named)
    split
    · exact constructed
    · exact ⟨_, rfl⟩
  · split
    · exact ⟨_, rfl⟩
    split
    · exact ⟨_, rfl⟩
    split
    · exact ⟨_, rfl⟩
    split
    · exact ⟨_, rfl⟩
    · exact ⟨_, rfl⟩
  · rename_i notSingle notEmpty
    obtain ⟨decl, listed⟩ := List.exists_mem_of_ne_nil _ notEmpty
    obtain ⟨member, named⟩ := List.mem_filter.mp listed
    obtain ⟨-, only, found⟩ := single decl member (by simpa using named)
    exact absurd found (notSingle only)

/-- A place of a type whose source is counted has a conversion. -/
def HasConversion (lib : Library) (M : Machine F) (target : Target) (conversion : Conversion)
    (key : Int) (source : Value F) : Prop :=
  ∀ ⦃type : TypeRef⦄ ⦃inPlace : Bool⦄ ⦃bound : Option (Value F)⦄ ⦃before : Value F⦄,
    lib.Typed (conversion.sourceMode target) type source → lib.Counted type bound source →
    (inPlace = true → lib.Fillable (conversion.destMode target) type before) →
      ∃ after, lib.ConvertsTo M target conversion key inPlace type bound source before after

section Exists

variable (distinct : lib.DistinctFields) (types : DeclaresRecords lib target M)
  (makes : lib.Makes target M)

include distinct in
/-- A record whose fields have a conversion is filled. -/
theorem exists_fillsTo {isClass : Bool} {record : Record} {sourceType type : String}
    {sourceIdentity identity : Identity} {content old : String → Value F}
    (declared : record ∈ if isClass then lib.classes else lib.structs)
    (parts : ∀ name, HasConversion lib M target conversion key (content name))
    (typed : ∀ field ∈ record.fields,
      lib.Typed (conversion.sourceMode target) field.type (content field.name))
    (counted : ∀ field ∈ record.fields,
      lib.Counted field.type (field.countField?.map content) (content field.name))
    (fillable : ∀ field ∈ record.fields,
      lib.Fillable (conversion.destMode target) field.type (old field.name)) :
    ∃ after, lib.FillsTo M target conversion key record
      (.record sourceType sourceIdentity content) (.record type identity old) after := by
  have nonempty : Nonempty (Value F) := ⟨.nothing⟩
  have each : ∀ field ∈ record.fields, ∃ value,
      lib.ConvertsTo M target conversion key true field.type (field.countField?.map content)
        (content field.name) (old field.name) value := fun field member =>
    parts field.name (typed field member) (counted field member) fun _ => fillable field member
  choose! converted converts using each
  -- A field is found by its name, as the names are distinct.
  refine ⟨.record type identity fun name =>
    ((record.fields.find? (·.name == name)).map converted).getD (old name), .intro ?_ ?_⟩
  · intro field member
    rw [find?_of_nodup_keys (distinct.of_declared declared) member]
    exact converts field member
  · intro name notField
    rw [List.find?_eq_none.mpr]
    · rfl
    · intro field member same
      exact notField (List.mem_map.mpr ⟨field, member, by simpa using same⟩)

include distinct types makes in
/-- A new instance is filled. -/
theorem exists_made {isClass : Bool} {record : Record} {sourceType : String}
    {sourceIdentity : Identity} {content : String → Value F}
    (declared : record ∈ if isClass then lib.classes else lib.structs)
    (parts : ∀ name, HasConversion lib M target conversion key (content name))
    (typed : ∀ field ∈ record.fields,
      lib.Typed (conversion.sourceMode target) field.type (content field.name))
    (counted : ∀ field ∈ record.fields,
      lib.Counted field.type (field.countField?.map content) (content field.name)) :
    ∃ start after, M.construct? (lib.typeName (conversion.destMode target) (.named record.name)) =
        some start ∧
      lib.FillsTo M target conversion key record (.record sourceType sourceIdentity content) start
        after := by
  obtain ⟨isNative, mode⟩ := conversion.exists_destMode target
  obtain ⟨start, constructed⟩ := makes isNative isClass record declared
  obtain ⟨old, rfl, -⟩ := exists_content types isNative declared constructed
  have fillable := fillable_of_construct? types isNative distinct declared constructed
  rw [← mode] at constructed fillable
  obtain ⟨after, filled⟩ := exists_fillsTo distinct declared parts typed counted fillable
  exact ⟨_, after, constructed, filled⟩

include distinct types makes in
/-- A value whose parts have conversions has one. -/
theorem hasConversion_of_parts
    (fields : ∀ {spelled identity content}, source = .record spelled identity content →
      ∀ name, HasConversion lib M target conversion key (content name))
    (elements : ∀ {elementType identity length content},
      source = .array elementType identity length content →
        ∀ position, HasConversion lib M target conversion key (content position)) :
    HasConversion lib M target conversion key source := by
  intro type inPlace bound before typed counted fillable
  cases typed with
  | nativeHandle kind native =>
    cases conversion with
    | wrap => exact ⟨_, .handle kind rfl⟩
    | unwrap => simp [Mode.application] at native
  | object kind application =>
    cases conversion with
    | wrap => simp [Mode.native] at application
    | unwrap => cases target <;> exact ⟨_, .handle kind rfl⟩
  | noObject kind application =>
    cases conversion with
    | wrap => simp [Mode.native] at application
    | unwrap => exact ⟨_, .handle kind rfl⟩
  | nativeBool kind native =>
    cases conversion with
    | wrap => exact ⟨_, .bool kind rfl⟩
    | unwrap => simp [Mode.application] at native
  | truth kind application =>
    cases conversion with
    | wrap => simp [Mode.native] at application
    | unwrap => exact ⟨_, .bool kind rfl⟩
  | @struct _ record content kind found typed =>
    obtain ⟨declared, rfl⟩ := mem_of_struct?_eq_some found
    have fieldsCounted := counted.fields_struct kind found
    obtain ⟨start, after, constructed, filled⟩ :=
      @exists_made F lib M target conversion key distinct types makes false record _ _ content
        declared (fields rfl) typed fieldsCounted
    exact ⟨after, .struct kind found constructed filled⟩
  | @«instance» _ record sourceIdentity content kind found shared typed =>
    obtain ⟨declared, rfl⟩ := mem_of_class?_eq_some found
    have fieldsCounted := counted.fields_class kind found
    have made := @exists_made F lib M target conversion key distinct types makes true record
      (lib.typeName (conversion.sourceMode target) (.named record.name)) sourceIdentity content
      declared (fields rfl) typed fieldsCounted
    cases inPlace with
    | false =>
      obtain ⟨start, after, constructed, filled⟩ := made
      exact ⟨after, .newElement kind found rfl constructed filled⟩
    | true =>
      cases fillable rfl with
      | replaced notClass => exact absurd kind notClass
      | @«instance» _ _ identity old _ alsoFound _ fillable =>
        obtain rfl := Option.some.inj (found.symm.trans alsoFound)
        obtain ⟨after, filled⟩ := @exists_fillsTo F lib M target conversion key distinct true record
          _ _ _ identity content old declared (fields rfl) typed fieldsCounted fillable
        exact ⟨after, .filledInstance kind found rfl rfl filled⟩
      | noInstance =>
        obtain ⟨start, after, constructed, filled⟩ := made
        exact ⟨after, .madeInstance kind found rfl rfl constructed filled⟩
  | noInstance kind =>
    cases inPlace with
    | false => exact ⟨_, .noElement kind rfl⟩
    | true => exact ⟨_, .keptInstance kind rfl⟩
  | other notConverted notBool => exact ⟨_, .other notConverted notBool⟩
  | @array element _ _ _ content typed =>
    cases counted with
    | missing none => simp [Value.isNull] at none
    | array sized inside fits counted =>
      obtain ⟨start, started⟩ :=
        makes.exists_default types (lib.typeName (conversion.destMode target) element)
      have each : ∀ position, ∃ value, lib.ConvertsTo M target conversion key false element none
          (content (Fin.castLE inside position)) start value := fun position =>
        elements rfl _ (typed _) (counted position) (by simp)
      choose converted converts using each
      exact ⟨_, .newArray sized inside fits started converts⟩
  | noArray => exact ⟨_, .keptArray rfl⟩

include distinct types makes in
/-- A counted value has a conversion. -/
theorem hasConversion (source : Value F) : HasConversion lib M target conversion key source :=
  source.of_parts fun _ => hasConversion_of_parts distinct types makes

end Exists

/-! ### Routines -/

end Library

/-! ### A small library -/

namespace Sample

/-- Handle objects that know nothing but their key and handle. -/
def framework : Framework :=
  { Object := Int × Int
    handleObject := Prod.mk
    nativeHandle := Prod.snd
    Datum := Unit
    initial? := fun _ => none }

/-- The small library around native code that writes nothing. -/
def machine : Machine framework :=
  library.machine ⟨"Access"⟩ .legacy fun _ _ => ⟨fun _ => .nothing, .nothing⟩

theorem exists_default (isNative : Bool) {name : String}
    (builtIn : name = "int" ∨ name = "bool" ∨ name = handleType) :
    ∃ value, machine.default? (library.typeName ⟨isNative, .legacy⟩ (.named name)) = some value := by
  have undeclared : machine.types.filter
      (·.name == library.typeName ⟨isNative, .legacy⟩ (.named name)) = [] := by
    rcases builtIn with rfl | rfl | rfl <;> cases isNative <;> rfl
  rw [Machine.default?, undeclared]
  rcases builtIn with rfl | rfl | rfl <;> cases isNative <;> exact ⟨_, rfl⟩

theorem exists_point (isNative : Bool) : ∃ value,
    machine.construct? (library.typeName ⟨isNative, .legacy⟩ (.named "Point")) = some value := by
  obtain ⟨number, isNumber⟩ := exists_default isNative (.inl rfl)
  obtain ⟨handle, isHandle⟩ := exists_default isNative (.inr (.inr rfl))
  have declared : machine.types.filter
      (·.name == library.typeName ⟨isNative, .legacy⟩ (.named "Point")) =
        [library.recordDecl ⟨isNative, .legacy⟩ false point] := by cases isNative <;> rfl
  rw [handleType] at isHandle
  rw [Library.construct?_of_filter declared]
  simp [point, Library.fieldMember, Library.initialValue?, Machine.initialFields?, isNumber,
    isHandle]

theorem exists_items (isNative : Bool) : ∃ value,
    machine.construct? (library.typeName ⟨isNative, .legacy⟩ (.named "Items")) = some value := by
  obtain ⟨number, isNumber⟩ := exists_default isNative (.inl rfl)
  obtain ⟨truth, isTruth⟩ := exists_default isNative (.inr (.inl rfl))
  obtain ⟨corner, isCorner⟩ := exists_point isNative
  have declared : machine.types.filter
      (·.name == library.typeName ⟨isNative, .legacy⟩ (.named "Items")) =
        [library.recordDecl ⟨isNative, .legacy⟩ true items] := by cases isNative <;> rfl
  have first : machine.default? (library.typeName ⟨isNative, .legacy⟩ (.named "Point")) =
      some corner := by
    have struct : machine.types.filter
        (·.name == library.typeName ⟨isNative, .legacy⟩ (.named "Point")) =
          [library.recordDecl ⟨isNative, .legacy⟩ false point] := by cases isNative <;> rfl
    rw [Machine.default?, struct]
    exact isCorner
  have points : ∃ value, machine.default?
      (library.typeName ⟨isNative, .legacy⟩ (.named "Point") ++ "[]") = some value := by
    have undeclared : machine.types.filter
        (·.name == library.typeName ⟨isNative, .legacy⟩ (.named "Point") ++ "[]") = [] := by
      cases isNative <;> rfl
    rw [Machine.default?, undeclared]
    cases isNative <;> exact ⟨_, rfl⟩
  obtain ⟨array, isArray⟩ := points
  have kinds : library.kindOfName "int" = .primitive ∧ library.kindOfName "bool" = .bool ∧
      library.kindOfName "Point" = .structType := by decide
  rw [Library.construct?_of_filter declared]
  simp [items, Library.fieldMember, Library.initialValue?, Library.kindOf, kinds,
    Machine.initialFields?, isNumber, isTruth, first, isArray]

theorem library_makes : library.Makes .legacy machine := by
  intro isNative isClass record declared
  cases isClass with
  | false =>
    obtain rfl := List.mem_singleton.mp declared
    exact exists_point isNative
  | true =>
    obtain rfl := List.mem_singleton.mp declared
    exact exists_items isNative

/-- A point on the native surface. -/
def nativePoint (x handle : Int) : String → Value framework
  | "x" => .number "int" x
  | _ => .number "JOBJECT32" handle

/-- Items on the native surface, with a count of one for two points. -/
def nativeItems : String → Value framework
  | "count" => .number "int" 1
  | "visible" => .number "BOOL" 1
  | "first" => .record "PointNativeLegacy" .inline (nativePoint 3 7)
  | _ => .array "PointNativeLegacy" (.known 1) 2 fun position =>
      .record "PointNativeLegacy" .inline (nativePoint position 9)

theorem kindOfName_primitive : ¬ library.Converted (.named "int") ∧
    library.kindOfName "int" ≠ .bool := by
  have kind : library.kindOfName "int" = .primitive := by decide
  simp [Library.Converted, TypeRef.innermost, kind]

theorem nativePoint_typed (x handle : Int) :
    library.Typed (.native .legacy) (.named "Point")
      (.record "PointNativeLegacy" .inline (nativePoint x handle)) := by
  have found : library.struct? "Point" = some point := rfl
  refine .struct (by decide) found ?_
  intro field member
  simp only [point, List.mem_cons, List.not_mem_nil, or_false] at member
  rcases member with rfl | rfl
  · exact .other kindOfName_primitive.1 kindOfName_primitive.2 rfl
  · exact .nativeHandle (by decide) rfl

theorem nativeItems_typed : ∀ field ∈ items.fields,
    library.Typed (.native .legacy) field.type (nativeItems field.name) := by
  intro field member
  simp only [items, List.mem_cons, List.not_mem_nil, or_false] at member
  rcases member with rfl | rfl | rfl | rfl
  · exact .other kindOfName_primitive.1 kindOfName_primitive.2 rfl
  · exact .nativeBool (by decide) rfl
  · exact nativePoint_typed 3 7
  · exact .array fun position => nativePoint_typed position 9

theorem nativePoint_counted (x handle : Int) :
    library.Counted (.named "Point") none
      (.record "PointNativeLegacy" .inline (nativePoint x handle)) := by
  have found : library.struct? "Point" = some point := rfl
  refine .struct (by decide) found ?_
  intro field member
  simp only [point, List.mem_cons, List.not_mem_nil, or_false] at member
  rcases member with rfl | rfl <;> exact .plain (by decide) (by decide)

theorem nativeItems_counted : ∀ field ∈ items.fields,
    library.Counted field.type (field.countField?.map nativeItems) (nativeItems field.name) := by
  intro field member
  simp only [items, List.mem_cons, List.not_mem_nil, or_false] at member
  rcases member with rfl | rfl | rfl | rfl
  · exact .plain (by decide) (by decide)
  · exact .plain (by decide) (by decide)
  · exact nativePoint_counted 3 7
  · have counted : (some (nativeItems "count")).getD (.number "int" 2) = .number "int" (1 : Nat) :=
      rfl
    exact .array counted (by decide) (by decide) fun position => nativePoint_counted _ 9

theorem library_distinctFields : library.DistinctFields := by
  simp only [Library.DistinctFields]
  decide

end Sample

end InteropGlue
