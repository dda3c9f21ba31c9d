import InteropGlue.Proofs.Glue.RecordCopies
/-!
# Native images of application values

What unwrapping leaves of an application value can be wrapped again, provided nothing is lost on the
way. Three things would be: a handle that the native type cannot hold or that belongs to another
virtual machine, elements beyond the count of their array, and the missing instance in the field of a
class, where a new instance starts with one.

## Main Definitions

* `Library.Starts` — what a new field or element starts with.
* `Library.Faithful` — the application values that lose nothing.
* `Library.Mirrors` — a native value that shows an application value part by part.
* `Library.Alike` — application values that only differ in the instances they consist of.

## Main Results

* `Library.mirrors_of_convertsTo` — unwrapping a faithful value gives a native value that shows it.
* `Library.Mirrors.typed`, `Library.Mirrors.counted` — such a native value can be wrapped.
* `Library.Mirrors.alike` — wrapping it gives a value like the first one.

## Design Notes

The relation between the two surfaces is stated by itself, so that each direction is one induction
that does not know of the other: over the application value for unwrapping, and over the relation for
wrapping.
-/

namespace InteropGlue

open CSharp

variable {F : Framework}

/-- The native type for handles can hold the number. -/
def Target.FitsHandle : Target → Int → Prop
  | .modern, handle => -2 ^ 63 ≤ handle ∧ handle < 2 ^ 63
  | .legacy, handle => -2 ^ 31 ≤ handle ∧ handle < 2 ^ 31

/-- A handle that fits is the same number on the native surface. -/
theorem Target.FitsHandle.cast {target : Target} {handle : Int} (fits : target.FitsHandle handle) :
    (Value.number "long" handle : Value F).cast target.handleName =
      some (.number target.handleName handle) := by
  cases target with
  | modern =>
    obtain ⟨low, high⟩ := fits
    have same : handle.bmod (2 ^ 64) = handle := Int.bmod_eq_of_le (by omega) (by omega)
    rw [Value.cast, if_pos rfl, same]
  | legacy =>
    obtain ⟨low, high⟩ := fits
    have same : handle.bmod (2 ^ 32) = handle := Int.bmod_eq_of_le (by omega) (by omega)
    rw [Value.cast, if_neg (by decide), if_pos rfl, same]

namespace Library

/-! ### New places -/

/-- What a new field or element starts with: a new instance in the class field of a class, and the
default of its type in any other. -/
def Starts (lib : Library) (M : Machine F) (mode : Mode) (inClass : Bool) (type : TypeRef)
    (value : Value F) : Prop :=
  (if inClass = true ∧ lib.kindOf type = .classType then M.construct? (lib.typeName mode type)
    else M.default? (lib.typeName mode type)) = some value

section Definitions

variable (lib : Library) (target : Target) (machineOf : F.Object → Int) (key : Int)

/-- An application value that loses nothing when it is unwrapped with a key. The first index says
whether it stands in the field of a class, and the third is the count of an array, if it has one of
its own. -/
inductive Faithful : Bool → TypeRef → Option (Value F) → Value F → Prop
  | object {inClass : Bool} {name : String} {bound : Option (Value F)} {object : F.Object}
      (kind : lib.kindOfName name = .handle) (own : machineOf object = key)
      (fits : target.FitsHandle (F.nativeHandle object)) :
      Faithful inClass (.named name) bound (.object object)
  | plain {inClass : Bool} {name : String} {bound : Option (Value F)} {value : Value F}
      (notConverted : ¬ lib.Converted (.named name)) : Faithful inClass (.named name) bound value
  | struct {inClass : Bool} {name type : String} {bound : Option (Value F)} {record : Record}
      {identity : Identity} {content : String → Value F}
      (kind : lib.kindOfName name = .structType) (found : lib.struct? name = some record)
      (fields : ∀ field ∈ record.fields,
        Faithful false field.type (field.countField?.map content) (content field.name)) :
      Faithful inClass (.named name) bound (.record type identity content)
  | instance {inClass : Bool} {name type : String} {bound : Option (Value F)} {record : Record}
      {identity : Identity} {content : String → Value F}
      (kind : lib.kindOfName name = .classType) (found : lib.class? name = some record)
      (fields : ∀ field ∈ record.fields,
        Faithful true field.type (field.countField?.map content) (content field.name)) :
      Faithful inClass (.named name) bound (.record type identity content)
  | noInstance {name type : String} {bound : Option (Value F)}
      (kind : lib.kindOfName name = .classType) : Faithful false (.named name) bound (.null type)
  /-- An array with as many elements as its count says. -/
  | array {inClass : Bool} {element : TypeRef} {count : Option String} {bound : Option (Value F)}
      {type sizeType : String} {identity : Identity} {length : Nat} {content : Fin length → Value F}
      (counted : bound.getD (.number "int" length) = .number sizeType length)
      (fits : length ≤ maxLength) (elements : ∀ i, Faithful false element none (content i)) :
      Faithful inClass (.array element count) bound (.array type identity length content)
  | noArray {inClass : Bool} {element : TypeRef} {count : Option String} {bound : Option (Value F)}
      {type : String} : Faithful inClass (.array element count) bound (.null type)

/-- A native value that shows an application value part by part. -/
inductive Mirrors : Bool → TypeRef → Option (Value F) → Value F → Value F → Prop
  | object {inClass : Bool} {name : String} {bound : Option (Value F)} {object : F.Object}
      (kind : lib.kindOfName name = .handle) (own : machineOf object = key) :
      Mirrors inClass (.named name) bound (.object object)
        (.number target.handleName (F.nativeHandle object))
  | bool {inClass : Bool} {name : String} {bound : Option (Value F)} {truth : Bool}
      (kind : lib.kindOfName name = .bool) :
      Mirrors inClass (.named name) bound (.truth truth)
        (.number nativeBool (if truth then 1 else 0))
  | struct {inClass : Bool} {name : String} {bound : Option (Value F)} {record : Record}
      {content image : String → Value F}
      (kind : lib.kindOfName name = .structType) (found : lib.struct? name = some record)
      (counts : ∀ field ∈ record.fields,
        field.countField?.map image = field.countField?.map content)
      (fields : ∀ field ∈ record.fields, Mirrors false field.type (field.countField?.map content)
        (content field.name) (image field.name)) :
      Mirrors inClass (.named name) bound
        (.record (lib.typeName (.application target) (.named name)) .inline content)
        (.record (lib.typeName (.native target) (.named name)) .inline image)
  | instance {inClass : Bool} {name : String} {bound : Option (Value F)} {record : Record}
      {identity : Identity} {content image : String → Value F}
      (kind : lib.kindOfName name = .classType) (found : lib.class? name = some record)
      (counts : ∀ field ∈ record.fields,
        field.countField?.map image = field.countField?.map content)
      (fields : ∀ field ∈ record.fields, Mirrors true field.type (field.countField?.map content)
        (content field.name) (image field.name)) :
      Mirrors inClass (.named name) bound
        (.record (lib.typeName (.application target) (.named name)) identity content)
        (.record (lib.typeName (.native target) (.named name)) .fresh image)
  | noInstance {name : String} {bound : Option (Value F)}
      (kind : lib.kindOfName name = .classType) :
      Mirrors false (.named name) bound (.null (lib.typeName (.application target) (.named name)))
        (.null (lib.typeName (.native target) (.named name)))
  | other {inClass : Bool} {name : String} {bound : Option (Value F)} {value : Value F}
      (notConverted : ¬ lib.Converted (.named name)) (notBool : lib.kindOfName name ≠ .bool)
      (sameType : value.type = name) : Mirrors inClass (.named name) bound value value
  | array {inClass : Bool} {element : TypeRef} {count : Option String} {bound : Option (Value F)}
      {sizeType : String} {identity : Identity} {length : Nat} {content image : Fin length → Value F}
      (counted : bound.getD (.number "int" length) = .number sizeType length)
      (fits : length ≤ maxLength)
      (elements : ∀ i, Mirrors false element none (content i) (image i)) :
      Mirrors inClass (.array element count) bound
        (.array (lib.typeName (.application target) element) identity length content)
        (.array (lib.typeName (.native target) element) .fresh length image)
  | noArray {inClass : Bool} {element : TypeRef} {count : Option String}
      {bound : Option (Value F)} :
      Mirrors inClass (.array element count) bound
        (.null (lib.typeName (.application target) (.array element count)))
        (.null (lib.typeName (.native target) (.array element count)))

/-- Application values of a type that only differ in the instances they consist of. Handle objects
are alike if their keys and their handles are. -/
inductive Alike : TypeRef → Value F → Value F → Prop
  | object {name : String} {object other : F.Object} (kind : lib.kindOfName name = .handle)
      (machine : machineOf object = machineOf other)
      (handle : F.nativeHandle object = F.nativeHandle other) :
      Alike (.named name) (.object object) (.object other)
  | plain {name : String} {value : Value F} (notConverted : ¬ lib.Converted (.named name)) :
      Alike (.named name) value value
  | struct {name type : String} {record : Record} {content other : String → Value F}
      (kind : lib.kindOfName name = .structType) (found : lib.struct? name = some record)
      (fields : ∀ field ∈ record.fields,
        Alike field.type (content field.name) (other field.name)) :
      Alike (.named name) (.record type .inline content) (.record type .inline other)
  | instance {name type : String} {record : Record} {identity otherIdentity : Identity}
      {content other : String → Value F}
      (kind : lib.kindOfName name = .classType) (found : lib.class? name = some record)
      (fields : ∀ field ∈ record.fields,
        Alike field.type (content field.name) (other field.name)) :
      Alike (.named name) (.record type identity content) (.record type otherIdentity other)
  | noInstance {name type : String} (kind : lib.kindOfName name = .classType) :
      Alike (.named name) (.null type) (.null type)
  | array {element : TypeRef} {count : Option String} {type : String}
      {identity otherIdentity : Identity} {length : Nat} {content other : Fin length → Value F}
      (elements : ∀ i, Alike element (content i) (other i)) :
      Alike (.array element count) (.array type identity length content)
        (.array type otherIdentity length other)
  | noArray {element : TypeRef} {count : Option String} {type : String} :
      Alike (.array element count) (.null type) (.null type)

end Definitions

variable {lib : Library} {M : Machine F} {target : Target} {conversion : Conversion} {key : Int}
  {machineOf : F.Object → Int} {inClass inPlace : Bool} {type : TypeRef}
  {bound : Option (Value F)} {source image before after : Value F}

section Fields

variable {name spelled : String} {record : Record} {identity : Identity}
  {content : String → Value F}

theorem Faithful.fields_struct (faithful : lib.Faithful target machineOf key inClass (.named name)
      bound (.record spelled identity content))
    (kind : lib.kindOfName name = .structType) (found : lib.struct? name = some record) :
    ∀ field ∈ record.fields, lib.Faithful target machineOf key false field.type
      (field.countField?.map content) (content field.name) := by
  cases faithful with
  | plain notConverted => exact absurd (.inr (.inl kind)) notConverted
  | struct _ alsoFound fields =>
    obtain rfl := Option.some.inj (found.symm.trans alsoFound)
    exact fields
  | «instance» isClass => simp [kind] at isClass

theorem Faithful.fields_class (faithful : lib.Faithful target machineOf key inClass (.named name)
      bound (.record spelled identity content))
    (kind : lib.kindOfName name = .classType) (found : lib.class? name = some record) :
    ∀ field ∈ record.fields, lib.Faithful target machineOf key true field.type
      (field.countField?.map content) (content field.name) := by
  cases faithful with
  | plain notConverted => exact absurd (.inr (.inr kind)) notConverted
  | struct isStruct => simp [kind] at isStruct
  | «instance» _ alsoFound fields =>
    obtain rfl := Option.some.inj (found.symm.trans alsoFound)
    exact fields

end Fields

/-- A value that loses nothing has as many elements as its counts say. -/
theorem Faithful.counted (faithful : lib.Faithful target machineOf key inClass type bound source) :
    lib.Counted type bound source := by
  induction faithful with
  | object kind => exact .plain (by simp [kind]) (by simp [kind])
  | plain notConverted =>
    exact .plain (fun kind => notConverted (.inr (.inl kind)))
      (fun kind => notConverted (.inr (.inr kind)))
  | struct kind found _ ih => exact .struct kind found ih
  | «instance» kind found _ ih => exact .instance kind found ih
  | noInstance | noArray => exact .missing rfl
  | array counted fits _ ih => exact .array counted (Nat.le_refl _) fits ih

/-! ### Where conversions start -/

section Start

variable (types : DeclaresRecords lib target M)

include types in
/-- A new place for an array starts without one. -/
theorem eq_null_of_starts_array (accepted : lib.Accepted) (plain : lib.PlainRecords)
    (unmarked : lib.UnmarkedNames) {mode : Mode} {element : TypeRef} {count : Option String}
    (starts : lib.Starts M mode inClass (.array element count) before) :
    before = .null (lib.typeName mode (.array element count)) := by
  have undeclared :
      M.types.filter (·.name == lib.typeName mode (.array element count)) = [] := by
    refine List.filter_eq_nil_iff.mpr fun decl member same => ?_
    obtain ⟨isNative, isClass, record, declared, rfl⟩ := exists_declaration types member
    have known : lib.kindOfName record.name ≠ .unknown := by
      rw [kindOfName_record accepted.sound.typeNames_nodup plain declared]
      cases isClass <;> simp
    have spelled : lib.typeName ⟨isNative, target⟩ (.named record.name) =
        lib.typeName mode element ++ "[]" := (beq_iff_eq.mp same).trans (typeName_array ..)
    have bare := unmarked.typeName ⟨isNative, target⟩ known
    simp [spelled] at bare
  have marked : (lib.typeName mode (.array element count)).toList.getLast? = some ']' := by
    simp [typeName_array]
  rw [Starts, if_neg (by simp [kindOf]), Machine.default?, undeclared] at starts
  simpa [marked, eq_comm] using starts

include types in
/-- Where a class is filled there is a new instance: the one that the place starts with, or else one
that the conversion makes. -/
theorem exists_start {name : String} {record : Record} (kind : lib.kindOfName name = .classType)
    (found : lib.class? name = some record) (given : source.isNull = false)
    (starts : inPlace = true →
      lib.Starts M (conversion.destMode target) inClass (.named name) before)
    (converts : lib.ConvertsTo M target conversion key inPlace (.named name) bound source before
      after) :
    ∃ start, M.construct? (lib.typeName (conversion.destMode target) (.named name)) = some start ∧
      lib.FillsTo M target conversion key record source start after := by
  cases inPlace with
  | false =>
    rw [convertsTo_element_iff kind found, if_neg (by simp [given])] at converts
    exact converts
  | true =>
    rw [convertsTo_inPlace_iff kind found, if_neg (by simp [given])] at converts
    obtain ⟨start, started, filled⟩ := converts
    refine ⟨start, ?_, filled⟩
    split at started
    · exact started
    · rename_i present
      subst started
      -- The conversion found an instance there, so the place did not start with `null`.
      have starts := starts rfl
      cases inClass with
      | true => rwa [Starts, if_pos ⟨rfl, kind⟩] at starts
      | false =>
        obtain ⟨declared, rfl⟩ := mem_of_class?_eq_some found
        obtain ⟨isNative, mode⟩ := conversion.exists_destMode target
        rw [Starts, if_neg (by simp), mode] at starts
        rw [isNull_of_default? types isNative declared starts] at present
        exact absurd rfl present

include types in
/-- A class without a source, outside the fields of classes, is converted to none. -/
theorem eq_null_of_noInstance {name : String} (kind : lib.kindOfName name = .classType)
    (none : source.isNull = true)
    (starts : inPlace = true → lib.Starts M (conversion.destMode target) false (.named name) before)
    (converts : lib.ConvertsTo M target conversion key inPlace (.named name) bound source before
      after) :
    after = .null (lib.typeName (conversion.destMode target) (.named name)) := by
  obtain ⟨record, declared, rfl, found⟩ := exists_class kind
  cases inPlace with
  | false =>
    rw [convertsTo_element_iff kind found, if_pos none] at converts
    exact converts
  | true =>
    obtain ⟨isNative, mode⟩ := conversion.exists_destMode target
    rw [convertsTo_inPlace_iff kind found, if_pos none] at converts
    have starts := starts rfl
    rw [Starts, if_neg (by simp), mode] at starts
    rw [converts, isNull_of_default? types isNative declared starts, mode]

include types in
/-- A new instance that is filled: every field is converted from what it starts with. -/
theorem exists_filled (distinct : lib.DistinctFields) {isClass : Bool} {record : Record}
    (declared : record ∈ if isClass then lib.classes else lib.structs) {start : Value F}
    {spelled : String} {identity : Identity} {content : String → Value F}
    (constructed : M.construct? (lib.typeName (conversion.destMode target) (.named record.name)) =
      some start)
    (filled : lib.FillsTo M target conversion key record (.record spelled identity content) start
      after) :
    ∃ new, after = .record (lib.typeName (conversion.destMode target) (.named record.name))
        (if isClass then .fresh else .inline) new ∧
      ∀ field ∈ record.fields, ∃ old,
        lib.Starts M (conversion.destMode target) isClass field.type old ∧
          lib.ConvertsTo M target conversion key true field.type (field.countField?.map content)
            (content field.name) old (new field.name) := by
  obtain ⟨isNative, mode⟩ := conversion.exists_destMode target
  rw [mode] at constructed ⊢
  obtain ⟨old, rfl, initial⟩ := exists_content types isNative declared constructed
  have starts := initial_of_field (distinct.of_declared declared) initial
  cases filled with
  | intro each _ =>
    exact ⟨_, rfl, fun field member => ⟨old field.name, starts field member, each field member⟩⟩

end Start

/-! ### Unwrapping -/

/-- Unwrapping a value gives one that shows it. -/
def Unwraps (lib : Library) (M : Machine F) (target : Target) (machineOf : F.Object → Int)
    (key : Int) (source : Value F) : Prop :=
  ∀ ⦃inClass inPlace : Bool⦄ ⦃type : TypeRef⦄ ⦃bound : Option (Value F)⦄ ⦃before after : Value F⦄,
    lib.Typed (.application target) type source →
    lib.Faithful target machineOf key inClass type bound source →
    (inPlace = true ∨ lib.kindOf type = .array →
      lib.Starts M (.native target) inClass type before) →
    lib.ConvertsTo M target .unwrap key inPlace type bound source before after →
      lib.Mirrors target machineOf key inClass type bound source after

section Unwrapping

variable (accepted : lib.Accepted) (plain : lib.PlainRecords) (unmarked : lib.UnmarkedNames)
  (distinct : lib.DistinctFields) (types : DeclaresRecords lib target M)

include accepted distinct types in
/-- A new native record shows the application record that it is filled from. -/
theorem mirrors_fields {isClass : Bool} {record : Record}
    (declared : record ∈ if isClass then lib.classes else lib.structs) {start : Value F}
    {spelled : String} {identity : Identity} {content : String → Value F}
    (parts : ∀ name, lib.Unwraps M target machineOf key (content name))
    (typed : ∀ field ∈ record.fields,
      lib.Typed (.application target) field.type (content field.name))
    (faithful : ∀ field ∈ record.fields, lib.Faithful target machineOf key isClass field.type
      (field.countField?.map content) (content field.name))
    (constructed : M.construct? (lib.typeName (.native target) (.named record.name)) = some start)
    (filled : lib.FillsTo M target .unwrap key record (.record spelled identity content) start
      after) :
    ∃ image, after = .record (lib.typeName (.native target) (.named record.name))
        (if isClass then .fresh else .inline) image ∧
      (∀ field ∈ record.fields, field.countField?.map image = field.countField?.map content) ∧
        ∀ field ∈ record.fields, lib.Mirrors target machineOf key isClass field.type
          (field.countField?.map content) (content field.name) (image field.name) := by
  obtain ⟨image, rfl, each⟩ :=
    @exists_filled F lib M target .unwrap key after types distinct isClass record declared start
      spelled identity content constructed filled
  refine ⟨image, rfl, fun field member => ?_, fun field member => ?_⟩
  · cases counted : field.countField? with
    | none => rfl
    | some count =>
      -- The count is a field of integers, which are the same on both surfaces.
      have isArray : ∃ element, field.type = .array element (some count) := by
        cases type : field.type <;> simp_all [Field.countField?]
      obtain ⟨element, isArray⟩ := isArray
      have listed : record ∈ lib.structs ++ lib.classes := mem_records_iff.mpr ⟨isClass, declared⟩
      obtain ⟨sibling, found, name, integer, isNamed⟩ :=
        accepted.sound.count_bound record listed field member element count isArray
      obtain rfl : sibling.name = count := by simpa using List.find?_some found
      obtain ⟨old, -, converts⟩ := each sibling (List.mem_of_find?_eq_some found)
      have kind : lib.kindOfName name = .primitive := kindOfName_of_integer integer
      rw [isNamed, convertsTo_other_iff (by simp [Converted, TypeRef.innermost, kind])
        (by simp [kind])] at converts
      rw [Option.map_some, Option.map_some, converts]
  · obtain ⟨old, starts, converts⟩ := each field member
    exact parts field.name (typed field member) (faithful field member) (fun _ => starts) converts

include accepted plain unmarked distinct types in
/-- Unwrapping a value shows it if unwrapping its parts shows them. -/
theorem unwraps_of_parts
    (fields : ∀ {spelled identity content}, source = .record spelled identity content →
      ∀ name, lib.Unwraps M target machineOf key (content name))
    (elements : ∀ {elementType identity length content},
      source = .array elementType identity length content →
        ∀ position, lib.Unwraps M target machineOf key (content position)) :
    lib.Unwraps M target machineOf key source := by
  intro inClass inPlace type bound before after typed faithful starts converts
  cases typed with
  | nativeHandle _ native | nativeBool _ native => simp [Mode.application] at native
  | object kind =>
    rw [convertsTo_handle_iff kind] at converts
    cases faithful with
    | object _ own fits =>
      rw [Conversion.handle?, fits.cast, Option.some.injEq] at converts
      exact converts ▸ .object kind own
    -- A handle is always converted.
    | plain notConverted => exact absurd (.inl kind) notConverted
  | noObject kind =>
    cases faithful with
    | plain notConverted => exact absurd (.inl kind) notConverted
    | noInstance isClass => simp [kind] at isClass
  | truth kind =>
    rw [convertsTo_bool_iff kind, Conversion.bool?, Option.some.injEq] at converts
    exact converts ▸ .bool kind
  | @struct _ record content kind found typed =>
    obtain ⟨declared, rfl⟩ := mem_of_struct?_eq_some found
    obtain ⟨start, constructed, filled⟩ := (convertsTo_struct_iff kind found).mp converts
    obtain ⟨image, rfl, counts, mirrors⟩ :=
      @mirrors_fields F lib M target key machineOf after accepted distinct types false record
        declared start _ _ content (fields rfl) typed (faithful.fields_struct kind found) constructed
        filled
    exact .struct kind found counts mirrors
  | @«instance» _ record identity content kind found shared typed =>
    obtain ⟨declared, rfl⟩ := mem_of_class?_eq_some found
    obtain ⟨start, constructed, filled⟩ :=
      @exists_start F lib M target .unwrap key inClass inPlace bound _ before after types _ record
        kind found rfl (fun here => starts (.inl here)) converts
    obtain ⟨image, rfl, counts, mirrors⟩ :=
      @mirrors_fields F lib M target key machineOf after accepted distinct types true record
        declared start _ _ content (fields rfl) typed (faithful.fields_class kind found) constructed
        filled
    exact .instance kind found counts mirrors
  | @noInstance name kind =>
    -- In the field of a class there is an instance, since nothing faithful is missing there.
    have noField : inClass = false := by
      cases faithful with
      | plain notConverted => exact absurd (.inr (.inr kind)) notConverted
      | noInstance => rfl
    subst noField
    obtain rfl : after = .null (lib.typeName (Conversion.unwrap.destMode target) (.named name)) :=
      eq_null_of_noInstance types kind rfl (fun here => starts (.inl here)) converts
    exact .noInstance kind
  | other notConverted notBool sameType =>
    rw [convertsTo_other_iff notConverted notBool] at converts
    subst converts
    exact .other notConverted notBool sameType
  | @array element count identity length content typed =>
    cases faithful with
    | array counted fits faithful =>
      cases converts with
      | keptArray none => simp [Value.isNull] at none
      | newArray alsoCounted inside _ started converts =>
        -- The count says the same number to both.
        have same := (Value.number.inj (counted.symm.trans alsoCounted)).2
        rw [Int.natCast_inj] at same
        subst same
        exact .array counted fits fun i => elements rfl i (typed i) (faithful i)
          (fun _ => by rw [Starts, if_neg (by simp)]; exact started) (converts i)
  | noArray =>
    cases converts with
    | keptArray none =>
      rw [eq_null_of_starts_array types accepted plain unmarked (starts (.inr rfl))]
      exact .noArray

include accepted plain unmarked distinct types in
theorem unwraps (source : Value F) : lib.Unwraps M target machineOf key source :=
  source.of_parts fun _ => unwraps_of_parts accepted plain unmarked distinct types

end Unwrapping

/-! ### Wrapping -/

namespace Mirrors

variable (mirrors : lib.Mirrors target machineOf key inClass type bound source image)
include mirrors

/-- A value that shows an application value is one of the native surface. -/
theorem typed : lib.Typed (.native target) type image := by
  induction mirrors with
  | object kind => exact .nativeHandle kind rfl
  | bool kind => exact .nativeBool kind rfl
  | struct kind found _ _ ih => exact .struct kind found ih
  | «instance» kind found _ _ ih => exact .instance kind found (by simp) ih
  | noInstance kind => exact .noInstance kind
  | other notConverted notBool sameType => exact .other notConverted notBool sameType
  | array _ _ _ ih => exact .array ih
  | noArray => exact .noArray

/-- It has as many elements as its counts say. -/
theorem counted : lib.Counted type bound image := by
  induction mirrors with
  | object kind | bool kind => exact .plain (by simp [kind]) (by simp [kind])
  | struct kind found counts _ ih =>
    exact .struct kind found fun field member => counts field member ▸ ih field member
  | «instance» kind found counts _ ih =>
    exact .instance kind found fun field member => counts field member ▸ ih field member
  | noInstance | noArray => exact .missing rfl
  | other notConverted =>
    exact .plain (fun kind => notConverted (.inr (.inl kind)))
      (fun kind => notConverted (.inr (.inr kind)))
  | array counted fits _ ih => exact .array counted (Nat.le_refl _) fits ih

/-- Wrapping what shows an application value gives a value like it. -/
theorem alike (accepted : lib.Accepted) (plain : lib.PlainRecords) (unmarked : lib.UnmarkedNames)
    (distinct : lib.DistinctFields) (types : DeclaresRecords lib target M)
    (handles : ∀ key handle, machineOf (F.handleObject key handle) = key ∧
      F.nativeHandle (F.handleObject key handle) = handle)
    (starts : inPlace = true ∨ lib.kindOf type = .array →
      lib.Starts M (.application target) inClass type before)
    (converts : lib.ConvertsTo M target .wrap key inPlace type bound image before after) :
    lib.Alike machineOf type source after := by
  induction mirrors generalizing inPlace before after with
  | object kind own =>
    rw [convertsTo_handle_iff kind, Conversion.handle?, Option.some.injEq] at converts
    subst converts
    obtain ⟨machine, handle⟩ := handles key _
    exact .object kind (own.trans machine.symm) handle.symm
  | @bool _ _ _ truth kind =>
    rw [convertsTo_bool_iff kind, Conversion.bool?, Option.some.injEq] at converts
    subst converts
    cases truth <;> exact .plain (by simp [Converted, TypeRef.innermost, kind])
  | @struct _ _ _ record _ _ kind found counts _ ih =>
    obtain ⟨declared, rfl⟩ := mem_of_struct?_eq_some found
    obtain ⟨start, constructed, filled⟩ := (convertsTo_struct_iff kind found).mp converts
    obtain ⟨new, rfl, each⟩ :=
      @exists_filled F lib M target .wrap key after types distinct false record declared start _ _ _
        constructed filled
    refine .struct kind found fun field member => ?_
    obtain ⟨old, starts, converts⟩ := each field member
    exact ih field member (fun _ => starts) (counts field member ▸ converts)
  | @«instance» _ _ _ record _ _ _ kind found counts _ ih =>
    obtain ⟨declared, rfl⟩ := mem_of_class?_eq_some found
    obtain ⟨start, constructed, filled⟩ :=
      @exists_start F lib M target .wrap key _ inPlace _ _ before after types _ record kind found rfl
        (fun here => starts (.inl here)) converts
    obtain ⟨new, rfl, each⟩ :=
      @exists_filled F lib M target .wrap key after types distinct true record declared start _ _ _
        constructed filled
    refine .instance kind found fun field member => ?_
    obtain ⟨old, starts, converts⟩ := each field member
    exact ih field member (fun _ => starts) (counts field member ▸ converts)
  | @noInstance name _ kind =>
    obtain rfl : after = .null (lib.typeName (Conversion.wrap.destMode target) (.named name)) :=
      eq_null_of_noInstance types kind rfl (fun here => starts (.inl here)) converts
    exact .noInstance kind
  | other notConverted notBool =>
    rw [convertsTo_other_iff notConverted notBool] at converts
    exact converts ▸ .plain notConverted
  | array counted _ _ ih =>
    cases converts with
    | keptArray none => simp [Value.isNull] at none
    | newArray alsoCounted inside _ started converts =>
      have same := (Value.number.inj (counted.symm.trans alsoCounted)).2
      rw [Int.natCast_inj] at same
      subst same
      exact .array fun i =>
        ih i (fun _ => by rw [Starts, if_neg (by simp)]; exact started) (converts i)
  | noArray =>
    cases converts with
    | keptArray none =>
      rw [eq_null_of_starts_array types accepted plain unmarked (starts (.inr rfl))]
      exact .noArray

end Mirrors

end Library

end InteropGlue
