import InteropGlue.Proofs.CSharp.SpelledTypes
import InteropGlue.Proofs.Glue.ApplicationSurface
import InteropGlue.Proofs.Glue.Members
import InteropGlue.Proofs.Glue.Targets
import InteropGlue.Proofs.Library.Agreement
import InteropGlue.Proofs.Library.Meaning
import InteropGlue.Proofs.Library.Spelling
/-!
# Types that generated source names

Every type that generated source names is built in, stands for a type of the framework, or is
declared by the same source where the name can be used. The types of an accepted library mean
something, and what they mean is declared on each surface under the spelling for it. The classes
that carry the glue name each other and delegate types, which they have inside.

## Main Definitions

* `Surface`, `Surface.Known` — what a name may stand for in a declaration.
* `Surface.Spells` — a known name, with array marks.
* `Library.Reaches` — all types that mean something are known under their spelling.
* `Library.KnowsTypes` — a file names known types only.

## Main Results

* `Library.reaches_applicationSurface`, `Library.reaches_nativeSurface`,
  `Library.reachesBoth_of_derives` — which spellings are known where.
* `Library.spells_implementation`, `Library.spells_conversionRoutines` and their like — the types in
  one member.
* `Library.spells_applicationChapter`, `Library.spells_nativeChapter` — the types of a surface.
* `Library.spelled_types_known` — the types of a file.

## Design Notes

An enum has one spelling on all surfaces, and its one declaration is on the application surface. The
structs and classes of the application surface are known natively only in the two classes that
derive from a class there.
-/

namespace InteropGlue

open CSharp

/-! ### Names that are known -/

/-- A surface in a file: the aliases and the application surface of the file, the declarations of
the surface itself, and the target if the surface is native. -/
structure Surface where
  aliases : List String
  application : Chapter
  own : Chapter
  native : Option Target

namespace Surface

/-- What a name may stand for in a declaration of a surface. -/
inductive Known (surface : Surface) (place : Declaration) : String → Prop
  | primitive {name : String} (isPrimitive : IsPrimitive name) : surface.Known place name
  | handle : surface.Known place handleType
  | framework {name : String} (isFramework : name ∈ frameworkTypes) : surface.Known place name
  | external {name : String} (isAlias : name ∈ surface.aliases) : surface.Known place name
  | nativeBool {target : Target} (isNative : surface.native = some target) :
    surface.Known place nativeBool
  | nativeHandle {target : Target} (isNative : surface.native = some target) :
    surface.Known place target.handleName
  /-- A type that the surface declares itself. -/
  | own {name : String} (declared : name ∈ surface.own.names) : surface.Known place name
  /-- An enum, which is declared once for all surfaces. -/
  | enum {decl : TypeDecl} (declared : .type decl ∈ surface.application.declarations)
      (isEnum : decl.sort = .enum) : surface.Known place decl.name
  /-- A type of the application surface, in a class that derives from one there. -/
  | crossing {name : String} (derives : place.derives = true)
      (declared : name ∈ surface.application.names) : surface.Known place name
  /-- A delegate type inside the declaration. -/
  | nested {name : String} (inside : name ∈ place.nested) : surface.Known place name
  /-- A delegate type inside another class of the surface. -/
  | nestedIn {owner : Declaration} {name : String} (declared : owner ∈ surface.own.declarations)
      (inside : name ∈ owner.nested) : surface.Known place (owner.name ++ "." ++ name)

/-- A name with array marks behind it. -/
def marked (name : String) : Nat → String
  | 0 => name
  | depth + 1 => marked name depth ++ "[]"

/-- A type may be spelled in a declaration of a surface: it is an array, at some depth, of a type
with a known name. -/
def Spells (surface : Surface) (place : Declaration) (type : String) : Prop :=
  ∃ name depth, surface.Known place name ∧ type = marked name depth

variable {surface : Surface} {place : Declaration}

theorem Known.spells {name : String} (known : surface.Known place name) :
    surface.Spells place name :=
  ⟨name, 0, known, rfl⟩

theorem spells_void : surface.Spells place "void" := (Known.primitive isPrimitive_void).spells

theorem spells_int : surface.Spells place "int" := by
  refine (Known.primitive ?_).spells
  rw [← isSome_canonicalPrimitive?_iff]
  decide

end Surface

namespace Library

variable {lib : Library} {surface : Surface} {place : Declaration} {mode : Mode}

/-- The array marks of a spelling are those of the type. -/
theorem typeName_eq_marked (mode : Mode) (type : TypeRef) :
    lib.typeName mode type =
      Surface.marked (lib.typeName mode (.named type.innermost)) type.depth := by
  induction type with
  | named name => rfl
  | array element count ih => rw [typeName_array, ih]; rfl

/-- All types that mean something are known in a declaration, in the spelling for some surface. -/
def Reaches (lib : Library) (surface : Surface) (place : Declaration) (mode : Mode) : Prop :=
  ∀ name, lib.kindOfName name ≠ .unknown → surface.Known place (lib.typeName mode (.named name))

/-- All types that mean something are known in a declaration, on both surfaces of a target. -/
def ReachesBoth (lib : Library) (surface : Surface) (place : Declaration) (target : Target) :
    Prop :=
  ∀ mode : Mode, mode.target = target → lib.Reaches surface place mode

theorem Reaches.spells (reaches : lib.Reaches surface place mode) {type : TypeRef}
    (known : lib.kindOfName type.innermost ≠ .unknown) :
    surface.Spells place (lib.typeName mode type) :=
  ⟨_, _, reaches _ known, typeName_eq_marked mode type⟩

/-- Names of most kinds are spelled alike on all surfaces. -/
theorem typeName_eq_self (mode : Mode) {name : String}
    (kind : lib.kindOfName name ∈ [Kind.void, .primitive, .enumType, .external]) :
    lib.typeName mode (.named name) = name := by
  rw [typeName]
  split <;> simp_all

/-- A declaration reaches all types if it reaches the enums and records. -/
theorem Reaches.of_declared (aliases : surface.aliases = lib.aliases)
    (native : mode.isNative = true → surface.native = some mode.target)
    (enums : ∀ enum ∈ lib.enums, surface.Known place enum.name)
    (records : ∀ record ∈ lib.structs ++ lib.classes,
      surface.Known place (lib.typeName mode (.named record.name))) :
    lib.Reaches surface place mode := by
  intro name known
  have means := mayMean_kindOfName known
  generalize kind : lib.kindOfName name = meant at means
  have same := @typeName_eq_self lib mode name
  rw [kind] at same
  cases means with
  | builtIn isBuiltIn =>
    cases isBuiltIn with
    | void =>
      rw [typeName_void]
      exact .primitive isPrimitive_void
    | bool =>
      obtain ⟨isNative, target⟩ := mode
      cases isNative with
      | true =>
        have spelled : lib.typeName ⟨true, target⟩ (.named "bool") = nativeBool :=
          typeName_native_bool target
        rw [spelled]
        exact .nativeBool (native rfl)
      | false => exact .primitive isPrimitive_bool
    | handle =>
      rw [typeName_handle]
      split
      · next isNative => exact .nativeHandle (native isNative)
      · exact .handle
    | primitive isPrimitive =>
      rw [same (by decide)]
      exact .primitive isPrimitive
  | declared declares =>
    cases meant with
    | enumType =>
      obtain ⟨enum, declared, rfl⟩ := List.mem_map.mp declares
      rw [same (by decide)]
      exact enums enum declared
    | structType =>
      obtain ⟨record, declared, rfl⟩ := List.mem_map.mp declares
      exact records record (List.mem_append_left _ declared)
    | classType =>
      obtain ⟨record, declared, rfl⟩ := List.mem_map.mp declares
      exact records record (List.mem_append_right _ declared)
    | external =>
      rw [same (by decide)]
      exact .external (aliases ▸ declares)
    | _ => exact absurd declares List.not_mem_nil
  | framework isFramework =>
    rw [same (by decide)]
    exact .framework isFramework

/-! ### The surfaces of a file -/

variable (lib) (names : ClassNames)

/-- The application surface of a file. -/
def applicationSurface (target : Target) : Surface :=
  { aliases := lib.aliases
    application := lib.applicationChapter names target
    own := lib.applicationChapter names target
    native := none }

/-- The native surface of a target in a file. -/
def nativeSurface (target : Target) : Surface :=
  { aliases := lib.aliases
    application := lib.applicationChapter names target
    own := lib.nativeChapter names target
    native := some target }

variable {lib names} {target : Target}

theorem exists_recordDecl {record : Record} (declared : record ∈ lib.structs ++ lib.classes)
    (mode : Mode) :
    ∃ decl ∈ lib.recordDecls mode, decl.name = lib.typeName mode (.named record.name) := by
  rcases List.mem_append.mp declared with isStruct | isClass
  · exact ⟨_, List.mem_append_left _ (List.mem_map_of_mem isStruct), rfl⟩
  · exact ⟨_, List.mem_append_right _ (List.mem_map_of_mem isClass), rfl⟩

theorem mem_applicationChapter_names {record : Record}
    (declared : record ∈ lib.structs ++ lib.classes) :
    lib.typeName (.application target) (.named record.name) ∈
      (lib.applicationChapter names target).names := by
  obtain ⟨decl, isDecl, name⟩ := exists_recordDecl declared (.application target)
  rw [← name, Chapter.names, declarations_applicationChapter]
  refine List.mem_map.mpr ⟨.type decl, List.mem_append_right _ ?_, rfl⟩
  exact List.mem_map_of_mem (List.mem_append_right _ isDecl)

/-- The application surface declares the delegate types of handlers. -/
theorem handler_mem_names {event : Event} (declared : event ∈ lib.events) :
    event.handler.name ∈ (lib.applicationChapter names target).names := by
  rw [Chapter.names, declarations_applicationChapter]
  refine List.mem_map.mpr ⟨.delegate (lib.handlerDelegate (.application target) event), ?_, rfl⟩
  exact List.mem_append_left _ (List.mem_append_right _ (List.mem_map_of_mem declared))

theorem mem_nativeChapter_names {record : Record} (declared : record ∈ lib.structs ++ lib.classes) :
    lib.typeName (.native target) (.named record.name) ∈
      (lib.nativeChapter names target).names := by
  obtain ⟨decl, isDecl, name⟩ := exists_recordDecl declared (.native target)
  rw [← name, Chapter.names, declarations_nativeChapter]
  refine List.mem_map.mpr ⟨.type decl, List.mem_append_left _ (List.mem_append_right _ ?_), rfl⟩
  exact List.mem_map_of_mem isDecl

theorem known_enum (application : surface.application = lib.applicationChapter names target)
    {enum : Enum} (declared : enum ∈ lib.enums) : surface.Known place enum.name := by
  have isDeclared : Declaration.type (lib.enumDecl (.application target) enum) ∈
      surface.application.declarations := by
    rw [application, declarations_applicationChapter]
    refine List.mem_append_right _ (List.mem_map_of_mem (List.mem_append_left _ ?_))
    exact List.mem_map_of_mem declared
  exact .enum isDeclared rfl

/-- The application surface reaches all types in its own spelling. -/
theorem reaches_applicationSurface (place : Declaration) :
    lib.Reaches (lib.applicationSurface names target) place (.application target) :=
  .of_declared rfl (fun isNative => absurd isNative Bool.false_ne_true)
    (fun _ declared => known_enum rfl declared)
    fun _ declared => .own (mem_applicationChapter_names declared)

/-- A native surface reaches all types in its own spelling. -/
theorem reaches_nativeSurface (place : Declaration) :
    lib.Reaches (lib.nativeSurface names target) place (.native target) :=
  .of_declared rfl (fun _ => rfl) (fun _ declared => known_enum rfl declared)
    fun _ declared => .own (mem_nativeChapter_names declared)

/-- A native class that derives from one of the application surface reaches all types there. -/
theorem reaches_application_of_derives (derives : place.derives = true) :
    lib.Reaches (lib.nativeSurface names target) place (.application target) :=
  .of_declared rfl (fun isNative => absurd isNative Bool.false_ne_true)
    (fun _ declared => known_enum rfl declared)
    fun _ declared => .crossing derives (mem_applicationChapter_names declared)

/-- Such a class reaches all types on both surfaces. -/
theorem reachesBoth_of_derives (derives : place.derives = true) :
    lib.ReachesBoth (lib.nativeSurface names target) place target := by
  rintro ⟨isNative, other⟩ rfl
  cases isNative with
  | true => exact reaches_nativeSurface place
  | false => exact reaches_application_of_derives derives

/-! ### Functions -/

section Functions

variable {f : Function}

/-- All types in a signature mean something. -/
def Means (lib : Library) (f : Function) : Prop :=
  ∀ type ∈ f.types, lib.kindOfName type.innermost ≠ .unknown

theorem Sound.means (sound : lib.Sound) {f : Function} (declared : f ∈ lib.signatures) :
    lib.Means f := by
  intro type inside
  rcases List.mem_cons.mp inside with rfl | isParamType
  · exact (sound.return_resolves f declared).1
  · obtain ⟨p, isParam, rfl⟩ := List.mem_map.mp isParamType
    exact (sound.param_resolves f declared p isParam).1

theorem spells_parameters (reaches : lib.Reaches surface place mode) (means : lib.Means f) :
    ∀ type ∈ (lib.parameters mode f).map (·.type), surface.Spells place type := by
  unfold parameters
  simp only [List.map_map, List.forall_mem_map]
  intro p isParam
  exact reaches.spells (means _ (Function.type_mem_types isParam))

theorem spells_signature (reaches : lib.Reaches surface place mode) (means : lib.Means f)
    (name : String) : ∀ type ∈ (lib.signature mode name f).spelled, surface.Spells place type := by
  unfold Signature.spelled signature
  exact List.forall_mem_cons.mpr
    ⟨reaches.spells (means _ f.returnType_mem_types), spells_parameters reaches means⟩

theorem spells_temporaries (reaches : lib.Reaches surface place (.native target))
    (means : lib.Means f) :
    ∀ s ∈ lib.temporaries target f, ∀ type ∈ s.spelled, surface.Spells place type := by
  have native : ∀ {p}, p ∈ f.params → surface.Spells place (lib.nativeType target p) :=
    fun isParam => reaches.spells (means _ (Function.type_mem_types isParam))
  have unwrapped : ∀ p : Param, (Step.bind p.temporary (unwrapCall (.name p.name))).spelled = [] :=
    fun _ => rfl
  unfold temporaries
  simp only [List.forall_mem_append, List.forall_mem_map]
  refine ⟨⟨fun p inBucket => ?_, fun p inBucket => ?_⟩, fun p inBucket => ?_⟩
  · rw [handleTemporary]
    split
    · simp [unwrapped]
    · exact List.forall_mem_singleton.mpr (native (List.mem_of_mem_filter inBucket))
  · rw [structTemporary]
    split
    · simp [unwrapped]
    all_goals exact List.forall_mem_singleton.mpr (native (List.mem_of_mem_filter inBucket))
  · rw [classTemporary]
    split
    · simp [unwrapped]
    · exact List.forall_mem_singleton.mpr (native (List.mem_of_mem_filter inBucket))

theorem spells_writeBacks (reaches : lib.Reaches surface place (.application target))
    (means : lib.Means f) :
    ∀ s ∈ lib.writeBacks target f, ∀ type ∈ s.spelled, surface.Spells place type := by
  intro s member
  rcases List.mem_append.mp member with ofValue | ofClass
  · obtain ⟨p, -, rfl⟩ := List.mem_map.mp ofValue
    exact List.forall_mem_nil _
  · obtain ⟨p, inBucket, isStep⟩ := List.mem_flatMap.mp ofClass
    have isParam : p ∈ f.params := List.mem_of_mem_filter inBucket
    rcases List.mem_append.mp isStep with creates | copies
    · split at creates
      · obtain rfl := List.mem_singleton.mp creates
        exact List.forall_mem_singleton.mpr
          (reaches.spells (means _ (Function.type_mem_types isParam)))
      · cases creates
    · obtain rfl := List.mem_singleton.mp copies
      exact List.forall_mem_nil _

theorem spelled_callArgument (p : Param) : (lib.callArgument p).spelled = [] := by
  unfold callArgument
  split
  · split <;> rfl
  · split <;> rfl
  · split <;> rfl
  · rfl
  · rfl

theorem spelled_entryCall (f : Function) : (lib.entryCall f).spelled = [] := by
  have args : Arg.spelledAll (f.params.map lib.callArgument) = [] := by
    rw [Arg.spelledAll_eq, List.flatMap_map, List.flatMap_eq_nil_iff]
    exact fun p _ => spelled_callArgument p
  unfold entryCall
  split
  · exact args
  · exact args

theorem spelled_returnSteps (f : Function) : ∀ s ∈ lib.returnSteps f, s.spelled = [] := by
  unfold returnSteps
  split
  · exact List.forall_mem_nil _
  all_goals exact List.forall_mem_singleton.mpr rfl

/-- The implementation of a function names its types on both surfaces. -/
theorem spells_implementation (native : lib.Reaches surface place (.native target))
    (application : lib.Reaches surface place (.application target)) (means : lib.Means f) :
    ∀ type ∈ (lib.implementation target f).spelled, surface.Spells place type := by
  have nothing : ∀ {s : Step}, s.spelled = [] → ∀ type ∈ s.spelled, surface.Spells place type := by
    intro s none
    rw [none]
    exact List.forall_mem_nil _
  have kept : ∀ s ∈ lib.keepAlives f, s.spelled = [] :=
    List.forall_mem_map.mpr fun _ _ => rfl
  have steps : ∀ s ∈ lib.implementationSteps target f,
      ∀ type ∈ s.spelled, surface.Spells place type := by
    unfold implementationSteps
    simp only [List.forall_mem_append]
    exact ⟨⟨⟨⟨spells_temporaries native means,
      List.forall_mem_singleton.mpr (nothing (spelled_entryCall f))⟩,
      fun s member => nothing (kept s member)⟩, spells_writeBacks application means⟩,
      fun s member => nothing (spelled_returnSteps f s member)⟩
  rw [implementation, Member.spelled, Block.spelled_ofSteps]
  exact List.forall_mem_append.mpr ⟨spells_signature application means f.name,
    List.forall_mem_flatMap.mpr steps⟩

end Functions

/-! ### Structs and classes -/

/-- A copied value names types of the surface that is converted to. -/
theorem spells_copyValue {rule : CopyRule}
    (reaches : lib.Reaches surface place (rule.conversion.destMode rule.target))
    {source dest : Expr} {count : Option Expr} {type : TypeRef}
    (known : lib.kindOfName type.innermost ≠ .unknown) (ofSource : source.spelled = [])
    (ofDest : dest.spelled = []) (ofCount : ∀ size, count = some size → size.spelled = []) :
    ∀ spelled ∈ (lib.copyValue rule source dest count type).spelled,
      surface.Spells place spelled := by
  induction type generalizing rule source dest count with
  | named name =>
    have converted : (rule.convert source).spelled = [] := by
      simp [CopyRule.convert, machineExpr, Expr.spelled, ofSource]
    have assigned : ∀ value : Expr, value.spelled = [] →
        (Block.ofSteps [Step.assign dest value]).spelled = [] := by
      intro value none
      simp [Step.spelled, ofDest, none]
    have filled : (lib.fillClass rule (.named name) source dest).spelled =
        [lib.typeName (rule.conversion.destMode rule.target) (.named name)] := by
      simp [fillClass, Block.spelled, Expr.spelled, Step.spelled, machineExpr, Arg.spelledAll,
        ofSource, ofDest]
    unfold copyValue
    dsimp only
    split
    · rw [assigned _ converted]
      exact List.forall_mem_nil _
    · rw [assigned _ converted]
      exact List.forall_mem_nil _
    · split
      · rw [filled]
        exact List.forall_mem_singleton.mpr (reaches.spells known)
      · rw [assigned _ converted]
        exact List.forall_mem_nil _
    · rw [assigned _ (by simp [ofSource])]
      exact List.forall_mem_nil _
    · rw [assigned _ ofSource]
      exact List.forall_mem_nil _
  | array element bound ih =>
    have bounded : (count.getD (source.member "Length")).spelled = [] := by
      cases count with
      | none => exact ofSource
      | some size => exact ofCount size rfl
    have elements := @ih rule.forElements reaches
      (source.element (.name rule.indexName)) (dest.element (.name rule.indexName)) none known
      (by simp [Expr.spelled, ofSource]) (by simp [Expr.spelled, ofDest]) (by simp)
    have created : surface.Spells place
        (lib.typeName (rule.conversion.destMode rule.target) element) := reaches.spells known
    rw [copyValue]
    simp only [Block.spelled_ifHolds, Block.spelled, Step.spelled, Expr.spelled, ofSource, ofDest,
      bounded, List.nil_append, List.append_nil]
    exact List.forall_mem_append.mpr ⟨List.forall_mem_singleton.mpr created, elements⟩

/-- A field of a record names its type. -/
theorem spells_fieldMember (reaches : lib.Reaches surface place mode) (isClass : Bool)
    {field : Field} (known : lib.kindOfName field.type.innermost ≠ .unknown) :
    ∀ type ∈ (lib.fieldMember mode isClass field).spelled, surface.Spells place type := by
  have spells := reaches.spells known
  unfold fieldMember initialValue?
  split
  · intro type member
    simp only [Member.spelled, Expr.spelled, Arg.spelledAll, List.mem_cons, List.not_mem_nil,
      or_false, or_self] at member
    exact member ▸ spells
  · exact List.forall_mem_singleton.mpr spells

theorem spelled_allocatingRoutine (conversion : Conversion) (isClass : Bool) (record : Record) :
    (lib.allocatingRoutine target conversion isClass record).spelled =
      [lib.typeName (conversion.destMode target) (.named record.name), "int",
        lib.typeName (conversion.sourceMode target) (.named record.name),
        lib.typeName (conversion.destMode target) (.named record.name)] := by
  cases isClass <;> rfl

theorem spelled_copyRoutine (conversion : Conversion) (isClass : Bool) (record : Record) :
    (lib.copyRoutine target conversion isClass record).spelled =
      ["void", "int", lib.typeName (conversion.sourceMode target) (.named record.name),
        lib.typeName (conversion.destMode target) (.named record.name)] ++
        record.fields.flatMap fun field => (lib.copyField target conversion field).spelled := by
  rw [copyRoutine, Member.spelled, Block.spelled_concat, List.flatMap_map]
  rfl

/-- The four conversions of a record name it on both surfaces, and the types of its fields on the
surface that is converted to. -/
theorem spells_conversionRoutines (reaches : lib.ReachesBoth surface place target) (isClass : Bool)
    {record : Record} (named : lib.kindOfName record.name ≠ .unknown)
    (fields : ∀ field ∈ record.fields, lib.kindOfName field.type.innermost ≠ .unknown) :
    ∀ m ∈ lib.conversionRoutines target isClass record,
      ∀ type ∈ m.spelled, surface.Spells place type := by
  have source : ∀ conversion : Conversion, surface.Spells place
      (lib.typeName (conversion.sourceMode target) (.named record.name)) := by
    intro conversion
    cases conversion <;> exact (reaches _ rfl).spells named
  have dest : ∀ conversion : Conversion,
      lib.Reaches surface place (conversion.destMode target) := by
    intro conversion
    cases conversion <;> exact reaches _ rfl
  have isDest : ∀ conversion : Conversion, surface.Spells place
      (lib.typeName (conversion.destMode target) (.named record.name)) :=
    fun conversion => (dest conversion).spells named
  have allocating : ∀ conversion,
      ∀ type ∈ (lib.allocatingRoutine target conversion isClass record).spelled,
        surface.Spells place type := by
    intro conversion
    rw [spelled_allocatingRoutine]
    simp only [List.forall_mem_cons]
    exact ⟨isDest conversion, Surface.spells_int, source conversion, isDest conversion,
      List.forall_mem_nil _⟩
  have copying : ∀ conversion,
      ∀ type ∈ (lib.copyRoutine target conversion isClass record).spelled,
        surface.Spells place type := by
    intro conversion
    have copies : ∀ field ∈ record.fields,
        ∀ type ∈ (lib.copyField target conversion field).spelled, surface.Spells place type := by
      intro field isField
      refine spells_copyValue (dest conversion) (fields field isField) rfl rfl fun size isSize => ?_
      obtain ⟨count, -, rfl⟩ := Option.map_eq_some_iff.mp isSize
      rfl
    rw [spelled_copyRoutine, List.forall_mem_append, List.forall_mem_flatMap]
    simp only [List.forall_mem_cons]
    exact ⟨⟨Surface.spells_void, Surface.spells_int, source conversion, isDest conversion,
      List.forall_mem_nil _⟩, copies⟩
  unfold conversionRoutines
  simp only [List.forall_mem_cons]
  exact ⟨allocating .wrap, allocating .unwrap, copying .wrap, copying .unwrap,
    List.forall_mem_nil _⟩

/-- The conversions of handles and booleans name both forms of these. -/
theorem spells_scalarConversions (isNative : surface.native = some target) (bothWays : Bool) :
    ∀ m ∈ scalarConversions target bothWays, ∀ type ∈ m.spelled, surface.Spells place type := by
  have bool : surface.Spells place "bool" := (Surface.Known.primitive isPrimitive_bool).spells
  have nativeBool : surface.Spells place nativeBool := (Surface.Known.nativeBool isNative).spells
  have handle : surface.Spells place handleType := Surface.Known.handle.spells
  have nativeHandle : surface.Spells place target.handleName :=
    (Surface.Known.nativeHandle isNative).spells
  have toBool : ∀ type ∈ toBoolRoutine.spelled, surface.Spells place type := by
    show ∀ type ∈ ["bool", InteropGlue.nativeBool], _
    simp only [List.forall_mem_cons]
    exact ⟨bool, nativeBool, List.forall_mem_nil _⟩
  have toNativeBool : ∀ type ∈ toNativeBoolRoutine.spelled, surface.Spells place type := by
    show ∀ type ∈ [InteropGlue.nativeBool, "bool"], _
    simp only [List.forall_mem_cons]
    exact ⟨nativeBool, bool, List.forall_mem_nil _⟩
  have wrap : ∀ type ∈ (wrapHandleRoutine target).spelled, surface.Spells place type := by
    show ∀ type ∈ [handleType, "int", target.handleName, handleType], _
    simp only [List.forall_mem_cons]
    exact ⟨handle, Surface.spells_int, nativeHandle, handle, List.forall_mem_nil _⟩
  have unwrap : ∀ type ∈ (unwrapHandleRoutine target).spelled, surface.Spells place type := by
    show ∀ type ∈ [target.handleName, "int", handleType, target.handleName], _
    simp only [List.forall_mem_cons]
    exact ⟨nativeHandle, Surface.spells_int, handle, nativeHandle, List.forall_mem_nil _⟩
  unfold scalarConversions
  split
  · simp only [List.forall_mem_cons]
    exact ⟨toBool, toNativeBool, wrap, unwrap, List.forall_mem_nil _⟩
  · simp only [List.forall_mem_cons]
    exact ⟨toBool, wrap, List.forall_mem_nil _⟩

/-! ### Events -/

/-- A raiser names the types of its parameters. -/
theorem spells_raiser (reaches : lib.Reaches surface place mode) {event : Event}
    (means : lib.Means event.handler) :
    ∀ type ∈ (lib.raiser mode event).spelled, surface.Spells place type := by
  have spelled : (lib.raiser mode event).spelled =
      "void" :: (lib.parameters mode event.handler).map (·.type) := by
    simp [raiser, Member.spelled, Signature.spelled, Block.spelled, Step.spelled, Expr.spelled,
      Event.handlers, List.flatMap_map]
  rw [spelled]
  exact List.forall_mem_cons.mpr ⟨Surface.spells_void, spells_parameters reaches means⟩

theorem spelled_forwardedArgument (p : Param) : (lib.forwardedArgument p).spelled = [] := by
  unfold forwardedArgument
  split <;> rfl

/-- A forwarding method names the native types of its parameters. -/
theorem spells_forwarder (reaches : lib.Reaches surface place (.native target)) {event : Event}
    (means : lib.Means event.handler) :
    ∀ type ∈ (lib.forwarder target event).spelled, surface.Spells place type := by
  have spelled : (lib.forwarder target event).spelled =
      "void" :: (lib.parameters (.native target) event.handler).map (·.type) := by
    simp [forwarder, Member.spelled, Signature.spelled, Step.spelled, List.flatMap_map,
      spelled_forwardedArgument]
  rw [spelled]
  exact List.forall_mem_cons.mpr ⟨Surface.spells_void, spells_parameters reaches means⟩

theorem spelled_accessors (event : Event) (register unregister : List Step) :
    (accessors event register unregister).1.spelled = register.flatMap Step.spelled ∧
      (accessors event register unregister).2.spelled = unregister.flatMap Step.spelled := by
  simp [accessors, Block.spelled, Step.spelled, Expr.spelled, Event.handlers, Event.subscribers]

/-- An event names its delegate type only. -/
theorem spelled_nativeEvent (event : Event) (modifiers : String) :
    (event.member modifiers event.nativeAccessors).spelled = [event.handler.name] := by
  obtain ⟨adds, removes⟩ := spelled_accessors event
    [.assign event.callback (.name event.raiserName), event.setCallback event.callback]
    [event.setCallback .null, .assign event.callback .null]
  rw [Event.member, Member.spelled, Event.nativeAccessors, adds, removes]
  rfl

theorem spelled_forwardingEvent (event : Event) (modifiers : String) :
    (event.member modifiers event.forwardingAccessors).spelled = [event.handler.name] := by
  obtain ⟨adds, removes⟩ := spelled_accessors event
    [.attach event.nativeEvent (.name event.forwarderName)] [event.detachForwarder]
  rw [Event.member, Member.spelled, Event.forwardingAccessors, adds, removes]
  rfl

theorem spelled_detachRoutine : (lib.detachRoutine).spelled = ["void"] := by
  have steps : (lib.events.flatMap fun event =>
      [event.detachForwarder, .assign event.handlers .null,
        .assign event.subscribers (.number 0)]).flatMap Step.spelled = [] := by
    rw [List.flatMap_assoc, List.flatMap_eq_nil_iff]
    exact fun _ _ => rfl
  rw [detachRoutine, Member.spelled, Block.spelled_ofSteps, steps]
  rfl

/-! ### Declarations -/

/-- A class with a collaborator names its type. -/
theorem spells_collaborator {collaborator : Collaborator} {className type : String}
    (declared : type ∈ surface.own.names) :
    ∀ m ∈ collaboratorMembers collaborator className type,
      ∀ spelled ∈ m.spelled, surface.Spells place spelled := by
  have spells : surface.Spells place type := (Surface.Known.own declared).spells
  intro m member
  rcases mem_collaboratorMembers.mp member with rfl | rfl | rfl
  all_goals exact List.forall_mem_singleton.mpr spells

/-- A record names the types of its fields. -/
theorem spells_recordDecl (reaches : lib.Reaches surface place mode) (isClass : Bool)
    {record : Record}
    (fields : ∀ field ∈ record.fields, lib.kindOfName field.type.innermost ≠ .unknown) :
    ∀ type ∈ (Declaration.type (lib.recordDecl mode isClass record)).spelled,
      surface.Spells place type := by
  rw [Declaration.spelled, members_recordDecl, List.flatMap_map, List.forall_mem_flatMap]
  exact fun field isField => spells_fieldMember reaches isClass (fields field isField)

theorem spells_recordDecls (sound : lib.Sound)
    (reaches : ∀ place, lib.Reaches surface place mode) :
    ∀ decl ∈ lib.recordDecls mode, ∀ type ∈ (Declaration.type decl).spelled,
      surface.Spells (.type decl) type := by
  have fields : ∀ record ∈ lib.structs ++ lib.classes, ∀ field ∈ record.fields,
      lib.kindOfName field.type.innermost ≠ .unknown :=
    fun record declared field isField => (sound.field_resolves record declared field isField).1
  unfold recordDecls
  simp only [List.forall_mem_append, List.forall_mem_map]
  refine ⟨fun record isStruct => ?_, fun record isClass => ?_⟩
  · exact spells_recordDecl (reaches _) false (fields record (List.mem_append_left _ isStruct))
  · exact spells_recordDecl (reaches _) true (fields record (List.mem_append_right _ isClass))

/-! ### Classes of a native surface -/

/-- The delegate types of handlers are inside the class of native events. -/
theorem handler_mem_nested {event : Event} (declared : event ∈ lib.events) :
    event.handler.name ∈ (Declaration.type (lib.nativeEventsClass names target)).nested :=
  List.mem_filterMap.mpr
    ⟨_, mem_nativeEventsClass_members.mpr (.inr (.inl ⟨event, declared, rfl⟩)), rfl⟩

/-- The delegate types of entry points are inside the class of entry points. -/
theorem pointerName_mem_nested {name : String} (offered : name ∈ lib.entryPointNames) :
    pointerName name ∈ (Declaration.type (lib.entryPointsClass names target)).nested := by
  have delegate : ∃ d ∈ lib.entryPointDelegates names target,
      d.signature.name = pointerName name := by
    rcases List.mem_append.mp offered with isFunction | isRegistration
    · obtain ⟨f, declared, rfl⟩ := List.mem_map.mp isFunction
      exact ⟨_, List.mem_append_left _ (List.mem_map_of_mem declared), rfl⟩
    · obtain ⟨event, declared, rfl⟩ := List.mem_map.mp isRegistration
      exact ⟨_, List.mem_append_right _ (List.mem_map_of_mem declared), rfl⟩
  obtain ⟨d, isDelegate, named⟩ := delegate
  refine List.mem_filterMap.mpr
    ⟨_, mem_entryPointsClass_members.mpr (.inl ⟨d, isDelegate, rfl⟩), ?_⟩
  rw [Member.delegateName?, named]

theorem entryPoints_mem_names :
    names.entryPoints target ∈ (lib.nativeSurface names target).own.names := by
  show names.entryPoints target ∈ (lib.nativeChapter names target).names
  rw [Chapter.names, declarations_nativeChapter]
  exact List.mem_cons_self

theorem nativeEventsClass_mem_declarations :
    .type (lib.nativeEventsClass names target) ∈
      (lib.nativeSurface names target).own.declarations := by
  show .type (lib.nativeEventsClass names target) ∈ (lib.nativeChapter names target).declarations
  rw [declarations_nativeChapter]
  exact List.mem_cons_of_mem _ List.mem_cons_self

section Chapters

variable (sound : lib.Sound)

include sound

theorem Sound.means_function {f : Function} (declared : f ∈ lib.functions) : lib.Means f :=
  sound.means (List.mem_append_left _ declared)

theorem Sound.means_handler {event : Event} (declared : event ∈ lib.events) :
    lib.Means event.handler :=
  sound.means (List.mem_append_right _ (List.mem_map_of_mem declared))

/-- The name of a declared record means something, be it the record or a built-in type. -/
theorem Sound.record_known {record : Record} (declared : record ∈ lib.structs ++ lib.classes) :
    lib.kindOfName record.name ≠ .unknown := by
  have declares : lib.Declares record.name .structType ∨ lib.Declares record.name .classType :=
    (List.mem_append.mp declared).imp List.mem_map_of_mem List.mem_map_of_mem
  generalize record.name = name at declares
  by_cases isBuiltIn : ∃ kind, BuiltIn name kind
  · obtain ⟨kind, builtIn⟩ := isBuiltIn
    rw [kindOfName_of_builtIn builtIn]
    cases builtIn <;> decide
  · have notBuiltIn := not_exists.mp isBuiltIn
    rcases declares with isStruct | isClass
    · rw [isStruct.kindOfName_eq sound.typeNames_nodup notBuiltIn]
      decide
    · rw [isClass.kindOfName_eq sound.typeNames_nodup notBuiltIn]
      decide

/-- All types that the application surface names are known there. -/
theorem spells_applicationChapter :
    ∀ place ∈ (lib.applicationChapter names target).declarations, ∀ type ∈ place.spelled,
      (lib.applicationSurface names target).Spells place type := by
  have reaches := @reaches_applicationSurface lib names target
  have handlers : ∀ place, ∀ event ∈ lib.events,
      (lib.applicationSurface names target).Spells place event.handler.name :=
    fun place event declared => (Surface.Known.own (handler_mem_names declared)).spells
  rw [declarations_applicationChapter]
  simp only [List.forall_mem_append, List.forall_mem_cons, List.forall_mem_map]
  refine ⟨⟨⟨?_, ?_, List.forall_mem_nil _⟩, fun event declared => ?_⟩, fun enum declared => ?_,
    spells_recordDecls sound reaches⟩
  · rw [Declaration.spelled, members_functionsClass, List.flatMap_map, List.forall_mem_flatMap]
    exact fun f declared => spells_signature (reaches _) (sound.means_function declared) f.name
  · rw [Declaration.spelled, members_eventsClass, List.flatMap_append, List.flatMap_map,
      List.forall_mem_append, List.forall_mem_flatMap]
    exact ⟨fun event declared => List.forall_mem_singleton.mpr (handlers _ event declared),
      List.forall_mem_singleton.mpr Surface.spells_void⟩
  · exact spells_signature (reaches _) (sound.means_handler declared) event.handler.name
  · rw [Declaration.spelled, TypeDecl.members, enumDecl, List.flatMap_map, List.flatMap_assoc,
      List.forall_mem_flatMap]
    exact fun _ _ => List.forall_mem_nil _

/-- The class of entry points names native types, its delegate types, and those of handlers. -/
theorem spells_entryPointsClass :
    ∀ type ∈ (Declaration.type (lib.entryPointsClass names target)).spelled,
      (lib.nativeSurface names target).Spells (.type (lib.entryPointsClass names target)) type := by
  rw [Declaration.spelled, flatMap_members_entryPointsClass, entryPointDelegates,
    List.flatMap_append, List.flatMap_map, List.flatMap_map]
  simp only [List.forall_mem_append, List.forall_mem_flatMap]
  refine ⟨⟨fun f declared => ?_, fun event declared => ?_⟩, fun name offered => ?_⟩
  · exact spells_signature (reaches_nativeSurface _) (sound.means_function declared) _
  · have handler : (lib.nativeSurface names target).Known
        (.type (lib.entryPointsClass names target))
        (names.nativeEvents target ++ "." ++ event.handler.name) :=
      .nestedIn nativeEventsClass_mem_declarations (handler_mem_nested declared)
    exact List.forall_mem_cons.mpr
      ⟨Surface.spells_void, List.forall_mem_singleton.mpr handler.spells⟩
  · exact List.forall_mem_singleton.mpr
      (Surface.Known.nested (pointerName_mem_nested offered)).spells

/-- The class of native events names native types, and the delegate types that it has inside. -/
theorem spells_nativeEventsClass :
    ∀ type ∈ (Declaration.type (lib.nativeEventsClass names target)).spelled,
      (lib.nativeSurface names target).Spells (.type (lib.nativeEventsClass names target))
        type := by
  have handler : ∀ event ∈ lib.events, (lib.nativeSurface names target).Spells
      (.type (lib.nativeEventsClass names target)) event.handler.name :=
    fun event declared => (Surface.Known.nested (handler_mem_nested declared)).spells
  rw [Declaration.spelled, flatMap_members_nativeEventsClass]
  simp only [List.forall_mem_append, List.forall_mem_flatMap]
  refine ⟨⟨⟨⟨spells_collaborator entryPoints_mem_names, fun event declared => ?_⟩,
    fun event declared => ?_⟩, fun event declared => ?_⟩, fun event declared => ?_⟩
  · exact spells_signature (reaches_nativeSurface _) (sound.means_handler declared) _
  · simp only [Event.nativeFields, List.forall_mem_cons]
    exact ⟨List.forall_mem_singleton.mpr (handler event declared),
      List.forall_mem_singleton.mpr (handler event declared),
      List.forall_mem_singleton.mpr Surface.spells_int, List.forall_mem_nil _⟩
  · rw [spelled_nativeEvent]
    exact List.forall_mem_singleton.mpr (handler event declared)
  · exact spells_raiser (reaches_nativeSurface _) (sound.means_handler declared)

/-- The class of functions names types of both surfaces. -/
theorem spells_nativeFunctionsClass :
    ∀ type ∈ (Declaration.type (lib.nativeFunctionsClass names target)).spelled,
      (lib.nativeSurface names target).Spells (.type (lib.nativeFunctionsClass names target))
        type := by
  have both : lib.ReachesBoth (lib.nativeSurface names target)
      (.type (lib.nativeFunctionsClass names target)) target := reachesBoth_of_derives rfl
  have routines : ∀ isClass, ∀ record ∈ lib.structs ++ lib.classes,
      ∀ m ∈ lib.conversionRoutines target isClass record, ∀ type ∈ m.spelled,
        (lib.nativeSurface names target).Spells (.type (lib.nativeFunctionsClass names target))
          type := fun isClass record declared =>
    spells_conversionRoutines both isClass (sound.record_known declared)
      fun field isField => (sound.field_resolves record declared field isField).1
  rw [Declaration.spelled, flatMap_members_nativeFunctionsClass]
  simp only [List.forall_mem_append, List.forall_mem_flatMap]
  refine ⟨⟨⟨⟨spells_collaborator entryPoints_mem_names, fun f declared => ?_⟩,
    fun record isStruct => routines false record (List.mem_append_left _ isStruct)⟩,
    fun record isClass => routines true record (List.mem_append_right _ isClass)⟩,
    spells_scalarConversions rfl true⟩
  exact spells_implementation (both _ rfl) (both _ rfl) (sound.means_function declared)

/-- The forwarder names types of both surfaces. -/
theorem spells_forwarderClass :
    ∀ type ∈ (Declaration.type (lib.forwarderClass names target)).spelled,
      (lib.nativeSurface names target).Spells (.type (lib.forwarderClass names target)) type := by
  have both : lib.ReachesBoth (lib.nativeSurface names target)
      (.type (lib.forwarderClass names target)) target := reachesBoth_of_derives rfl
  have handler : ∀ event ∈ lib.events, (lib.nativeSurface names target).Spells
      (.type (lib.forwarderClass names target)) event.handler.name :=
    fun event declared => (Surface.Known.crossing rfl (handler_mem_names declared)).spells
  have collaborator : names.nativeEvents target ∈ (lib.nativeSurface names target).own.names :=
    List.mem_map_of_mem nativeEventsClass_mem_declarations
  rw [Declaration.spelled, flatMap_members_forwarderClass]
  simp only [List.forall_mem_append, List.forall_mem_flatMap]
  refine ⟨⟨⟨⟨⟨⟨⟨spells_collaborator collaborator, fun event declared => ?_⟩,
    fun event declared => ?_⟩, fun event declared => ?_⟩, fun event declared => ?_⟩, ?_⟩, ?_⟩,
    spells_scalarConversions rfl false⟩
  · simp only [Event.forwardingFields, List.forall_mem_cons]
    exact ⟨List.forall_mem_singleton.mpr (handler event declared),
      List.forall_mem_singleton.mpr Surface.spells_int, List.forall_mem_nil _⟩
  · rw [spelled_forwardingEvent]
    exact List.forall_mem_singleton.mpr (handler event declared)
  · exact spells_raiser (both _ rfl) (sound.means_handler declared)
  · exact spells_forwarder (both _ rfl) (sound.means_handler declared)
  · rw [spelled_detachRoutine]
    exact List.forall_mem_singleton.mpr Surface.spells_void
  · exact List.forall_mem_singleton.mpr Surface.spells_void

/-- All types that a native surface names are known there. -/
theorem spells_nativeChapter :
    ∀ place ∈ (lib.nativeChapter names target).declarations, ∀ type ∈ place.spelled,
      (lib.nativeSurface names target).Spells place type := by
  rw [declarations_nativeChapter]
  simp only [List.forall_mem_append, List.forall_mem_cons, List.forall_mem_map]
  exact ⟨⟨⟨spells_entryPointsClass sound, spells_nativeEventsClass sound, List.forall_mem_nil _⟩,
    spells_recordDecls sound reaches_nativeSurface⟩, spells_nativeFunctionsClass sound,
    spells_forwarderClass sound, List.forall_mem_nil _⟩

end Chapters

/-! ### Files -/

/-- Every type that a file names, on the surface of the application or on the native surface of a
target, is known where it is named. -/
def KnowsTypes (lib : Library) (targets : List Target) (file : SourceFile) : Prop :=
  ∃ application natives, file.chapters = application :: natives ∧
    (∀ place ∈ application.declarations, ∀ type ∈ place.spelled,
      Surface.Spells ⟨lib.aliases, application, application, none⟩ place type) ∧
    List.Forall₂ (fun target native => ∀ place ∈ native.declarations, ∀ type ∈ place.spelled,
      Surface.Spells ⟨lib.aliases, application, native, some target⟩ place type) targets natives

/-- The file for an accepted library names no type that is not known. -/
theorem spelled_types_known (accepted : lib.Accepted) {output : OutputDecl}
    (nonempty : output.targets ≠ []) (aliases : List AliasDecl) :
    ∃ file, lib.sourceFile? output aliases = some file ∧
      lib.KnowsTypes (distinctTargets output.targets) file := by
  obtain ⟨first, -, generated⟩ := lib.sourceFile?_of_targets output aliases nonempty
  rw [← distinctTargets_eq] at generated
  refine ⟨_, generated, _, _, rfl, spells_applicationChapter accepted.sound, ?_⟩
  rw [List.forall₂_map_right_iff, List.forall₂_same]
  intro target _
  rw [applicationChapter_target lib first target]
  exact spells_nativeChapter accepted.sound

end Library

namespace Sample

/-- A library with an enum in a signature, and an event. -/
def moods : Library :=
  { Library.empty with
    functions :=
      [⟨"SetMood", .named "void",
        [⟨"vmid", .named "int", .input, none⟩, ⟨"mood", .named "Mood", .input, none⟩], none⟩]
    events :=
      [⟨"Ping", ⟨"PingEventHandler", .named "void", [⟨"vmid", .named "int", .input, none⟩],
        none⟩⟩]
    enums := [⟨"Mood", .named "int", false, [⟨"Calm", "0"⟩]⟩] }

/-- A file for the library of moods. -/
def moodOutput (targets : List Target) : OutputDecl :=
  { namespaceName := "Demo", library := "Demo", file := "Demo.cs", license := none, usings := []
    targets }

theorem moods_accepted : moods.Accepted := by cbv

theorem moods_types_known :
    moods.Accepted ∧ (moodOutput [.modern, .legacy]).targets ≠ [] ∧
      ∃ file, moods.sourceFile? (moodOutput [.modern, .legacy]) [] = some file ∧
        moods.KnowsTypes [.modern, .legacy] file := by
  have nonempty : (moodOutput [.modern, .legacy]).targets ≠ [] := by decide
  exact ⟨moods_accepted, nonempty, Library.spelled_types_known moods_accepted nonempty []⟩

/-- A native surface names an enum, which it does not declare, and a delegate type, which is no
struct, class or enum. -/
theorem moods_names_elsewhere :
    moods.Accepted ∧ ∃ file application native,
      moods.sourceFile? (moodOutput [.modern]) [] = some file ∧
      file.chapters = [application, native] ∧
      ∀ name ∈ ["Mood", "PingEventHandler"],
        (∃ place ∈ native.declarations, name ∈ place.spelled) ∧ ¬ IsPrimitive name ∧
          name ∉ [nativeBool, Target.modern.handleName, handleType] ++ frameworkTypes ++
            moods.aliases ∧
          name ∉ native.names := by
  refine ⟨moods_accepted, _, _, _, rfl, rfl, ?_⟩
  simp only [← isSome_canonicalPrimitive?_iff]
  decide

end Sample

end InteropGlue
