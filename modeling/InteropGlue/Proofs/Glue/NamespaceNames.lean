import Mathlib.Data.List.Nodup
import InteropGlue.Library.OfSchema
import InteropGlue.Proofs.Glue.Members
import InteropGlue.Proofs.Glue.Targets
import InteropGlue.Proofs.Library.Meaning
import InteropGlue.Proofs.Library.Spelling
/-!
# Names in the namespace

A file declares types of three origins in one namespace: the generated classes, which share a stem,
the delegate types of events, and the types of the library, natively with a suffix. The endings keep
the generated names of different origins apart from each other, whatever the stem is. Nothing keeps
them apart from the names that a library gives its own types, since the check of a library only
compares those with each other.

## Main Definitions

* `Apart` — two endings that no text has both.
* `ClassNames.all` — the names of the generated classes.
* `NativeSpelling` — the name of a native record.
* `Library.NamesApart` — no type of a library has a generated name.

## Main Results

* `NativeSpelling.unique` — a native name is that of one record, and of one target unless the record
  has a built-in name.
* `Library.names_declarations_perm` — all names that a file declares.
* `Schema.declared_names_distinct_iff` — when they are distinct.
-/

namespace InteropGlue

open CSharp

/-! ### Endings -/

/-- No text has both endings. -/
def Apart (ending other : String) : Prop :=
  ¬ ending.toList <:+ other.toList ∧ ¬ other.toList <:+ ending.toList

instance (ending other : String) : Decidable (Apart ending other) :=
  inferInstanceAs (Decidable (_ ∧ _))

theorem Apart.append_ne {ending other : String} (apart : Apart ending other)
    (front stem : String) : front ++ ending ≠ stem ++ other := by
  intro same
  have first : ending.toList <:+ (front ++ ending).toList := by
    rw [String.toList_append]
    exact List.suffix_append _ _
  have second : other.toList <:+ (front ++ ending).toList := by
    rw [same, String.toList_append]
    exact List.suffix_append _ _
  rcases List.suffix_or_suffix_of_suffix first second with inside | inside
  · exact apart.1 inside
  · exact apart.2 inside

/-- A text differs from all texts with an ending that is apart from it. -/
theorem Apart.ne_append {text ending : String} (apart : Apart text ending) (stem : String) :
    text ≠ stem ++ ending := by
  have different := apart.append_ne "" stem
  rwa [String.empty_append] at different

/-! ### Classes -/

namespace ClassNames

variable (names : ClassNames)

/-- The classes of a target. -/
def ofTarget (target : Target) : List String :=
  [names.entryPoints target, names.nativeEvents target, names.nativeFunctions target,
    names.forwarder target]

/-- The names of all generated classes. -/
def all (targets : List Target) : List String :=
  [names.functions, names.events] ++ targets.flatMap names.ofTarget

end ClassNames

/-- What follows the stem in the names of the classes of a target. -/
def Target.classEndings (target : Target) : List String :=
  ["EntryPoints", "NativeEvents", "NativeFunctions", "NativeEventsForwarder"].map
    (· ++ target.classSuffix)

/-- What follows the stem in the names of all generated classes. -/
def classEndings (targets : List Target) : List String :=
  ["Functions", "Events"] ++ targets.flatMap Target.classEndings

theorem ClassNames.ofTarget_eq (names : ClassNames) (target : Target) :
    names.ofTarget target = target.classEndings.map (names.stem ++ ·) := by
  simp [ClassNames.ofTarget, Target.classEndings, ClassNames.entryPoints, ClassNames.nativeEvents,
    ClassNames.nativeFunctions, ClassNames.forwarder, String.append_assoc]

theorem ClassNames.all_eq (names : ClassNames) (targets : List Target) :
    names.all targets = (classEndings targets).map (names.stem ++ ·) := by
  unfold ClassNames.all classEndings
  rw [List.map_append, List.map_flatMap, funext names.ofTarget_eq]
  rfl

theorem classEndings_subset (targets : List Target) :
    classEndings targets ⊆ classEndings [.modern, .legacy] := by
  have each : ∀ target : Target,
      target.classEndings ⊆ [Target.modern, .legacy].flatMap Target.classEndings := by
    intro target
    cases target <;> decide
  intro ending member
  rcases List.mem_append.mp member with isAbstract | isNative
  · exact List.mem_append_left _ isAbstract
  · obtain ⟨target, -, ofTarget⟩ := List.mem_flatMap.mp isNative
    exact List.mem_append_right _ (each target ofTarget)

theorem Target.disjoint_classEndings {first second : Target} (different : first ≠ second) :
    ∀ ending ∈ first.classEndings, ending ∉ second.classEndings := by
  cases first with
  | modern =>
    cases second with
    | modern => exact absurd rfl different
    | legacy => decide
  | legacy =>
    cases second with
    | modern => decide
    | legacy => exact absurd rfl different

theorem nodup_classEndings {targets : List Target} (distinct : targets.Nodup) :
    (classEndings targets).Nodup := by
  have ofTarget : ∀ target : Target, target.classEndings.Nodup ∧
      ∀ ending ∈ ["Functions", "Events"], ending ∉ target.classEndings := by
    intro target
    cases target <;> decide
  have native : (targets.flatMap Target.classEndings).Nodup :=
    List.nodup_flatMap.mpr ⟨fun target _ => (ofTarget target).1,
      distinct.imp fun different ending => Target.disjoint_classEndings different ending⟩
  refine List.nodup_append'.mpr ⟨by decide, native, fun ending isAbstract isNative => ?_⟩
  obtain ⟨target, -, member⟩ := List.mem_flatMap.mp isNative
  exact (ofTarget target).2 ending isAbstract member

/-- The generated classes have distinct names. -/
theorem ClassNames.nodup_all (names : ClassNames) {targets : List Target}
    (distinct : targets.Nodup) : (names.all targets).Nodup := by
  rw [names.all_eq]
  refine (nodup_classEndings distinct).map fun first second same => ?_
  simpa using same

/-! ### Native names -/

/-- The native names that are given, whatever a library declares. -/
def givenNames : List String :=
  [nativeBool, Target.modern.handleName, Target.legacy.handleName] ++
    primitives.flatMap fun entry => entry.1 :: entry.2

/-- The native name of a record of a name: the name with a suffix, unless it is built in. -/
inductive NativeSpelling (target : Target) : String → String → Prop
  | suffixed {name : String} (notBuiltIn : ∀ kind, ¬ BuiltIn name kind) :
    NativeSpelling target name (name ++ target.recordSuffix)
  | handle : NativeSpelling target handleType target.handleName
  | bool : NativeSpelling target "bool" nativeBool
  | primitive {name : String} (isPrimitive : IsPrimitive name) (notBool : name ≠ "bool") :
    NativeSpelling target name name

theorem mem_givenNames_of_isPrimitive {name : String} (isPrimitive : IsPrimitive name) :
    name ∈ givenNames := by
  obtain ⟨entry, isEntry, isName⟩ := isPrimitive
  exact List.mem_append_right _ (List.mem_flatMap.mpr ⟨entry, isEntry, isName⟩)

theorem NativeSpelling.suffixed_or_given {target : Target} {name spelled : String}
    (spells : NativeSpelling target name spelled) :
    spelled = name ++ target.recordSuffix ∨ spelled ∈ givenNames := by
  cases spells with
  | suffixed => exact .inl rfl
  | handle => exact .inr (by cases target <;> decide)
  | bool => exact .inr (by decide)
  | primitive isPrimitive => exact .inr (mem_givenNames_of_isPrimitive isPrimitive)

/-- An ending that is apart from all native suffixes and given names is that of no native name. -/
theorem NativeSpelling.ne_append {target : Target} {name spelled : String}
    (spells : NativeSpelling target name spelled) {ending : String}
    (suffix : ∀ target : Target, Apart target.recordSuffix ending)
    (given : ∀ text ∈ givenNames, Apart text ending) (stem : String) :
    spelled ≠ stem ++ ending := by
  rcases spells.suffixed_or_given with rfl | isGiven
  · exact (suffix target).append_ne name stem
  · exact (given spelled isGiven).ne_append stem

theorem apart_recordSuffix_of_given (target : Target) :
    ∀ text ∈ givenNames, Apart text target.recordSuffix := by
  cases target <;> decide

/-- Two names with suffixes are the same only for the same record and target. -/
theorem append_recordSuffix_inj {target other : Target} {name second : String}
    (same : name ++ target.recordSuffix = second ++ other.recordSuffix) :
    name = second ∧ target = other := by
  have apart : Apart Target.modern.recordSuffix Target.legacy.recordSuffix := by decide
  cases target with
  | modern =>
    cases other with
    | modern => exact ⟨String.append_left_inj _ |>.mp same, rfl⟩
    | legacy => exact absurd same (apart.append_ne name second)
  | legacy =>
    cases other with
    | modern => exact absurd same.symm (apart.append_ne second name)
    | legacy => exact ⟨String.append_left_inj _ |>.mp same, rfl⟩

theorem Target.handleName_injective {target other : Target}
    (same : target.handleName = other.handleName) : target = other := by
  cases target with
  | modern =>
    cases other with
    | modern => rfl
    | legacy => exact absurd same (by decide)
  | legacy =>
    cases other with
    | modern => exact absurd same (by decide)
    | legacy => rfl

/-- The native names of handles and booleans are no primitives and differ from each other. -/
theorem handleName_ne (target : Target) :
    target.handleName ≠ nativeBool ∧ ¬ IsPrimitive target.handleName ∧
      ¬ IsPrimitive nativeBool := by
  rw [← isSome_canonicalPrimitive?_iff, ← isSome_canonicalPrimitive?_iff]
  cases target <;> decide

/-- Natively, a name is that of one record, and of one target unless the record has the name of a
primitive. -/
theorem NativeSpelling.unique {target other : Target} {name second spelled : String}
    (spells : NativeSpelling target name spelled) (again : NativeSpelling other second spelled) :
    name = second ∧ (target = other ∨ IsPrimitive name) := by
  obtain ⟨handleNeBool, handleNotPrimitive, boolNotPrimitive⟩ := handleName_ne target
  obtain ⟨otherNeBool, otherNotPrimitive, -⟩ := handleName_ne other
  -- A name with a suffix is not given, whatever record has it.
  have notGiven : ∀ {front text : String}, text ∈ givenNames → text ≠ front ++ other.recordSuffix :=
    fun isGiven => (apart_recordSuffix_of_given other _ isGiven).ne_append _
  cases spells with
  | suffixed notBuiltIn =>
    rcases again.suffixed_or_given with same | isGiven
    · obtain ⟨sameName, sameTarget⟩ := append_recordSuffix_inj same
      exact ⟨sameName, .inl sameTarget⟩
    · exact absurd rfl ((apart_recordSuffix_of_given target _ isGiven).ne_append name)
  | handle =>
    generalize text : target.handleName = spelled at again
    cases again with
    | suffixed => exact absurd text (notGiven (by cases target <;> decide))
    | handle => exact ⟨rfl, .inl (Target.handleName_injective text)⟩
    | bool => exact absurd text handleNeBool
    | primitive isPrimitive => exact absurd (text ▸ isPrimitive) handleNotPrimitive
  | bool =>
    generalize text : nativeBool = spelled at again
    cases again with
    | suffixed => exact absurd text (notGiven (by decide))
    | handle => exact absurd text.symm otherNeBool
    | bool => exact ⟨rfl, .inr isPrimitive_bool⟩
    | primitive isPrimitive => exact absurd (text ▸ isPrimitive) boolNotPrimitive
  | primitive isPrimitive notBool =>
    generalize text : name = spelled at again
    cases again with
    | suffixed => exact absurd text (notGiven (mem_givenNames_of_isPrimitive isPrimitive))
    | handle => exact absurd (text ▸ isPrimitive) otherNotPrimitive
    | bool => exact absurd (text ▸ isPrimitive) boolNotPrimitive
    | primitive again => exact ⟨rfl, .inr again⟩

/-- A primitive other than `bool` is spelled natively as it is. -/
theorem NativeSpelling.eq_of_isPrimitive {target : Target} {name spelled : String}
    (spells : NativeSpelling target name spelled) (isPrimitive : IsPrimitive name)
    (notBool : name ≠ "bool") : spelled = name := by
  cases spells with
  | suffixed notBuiltIn =>
    exact absurd (exists_builtIn_iff.mpr (.inr isPrimitive)) (not_exists.mpr notBuiltIn)
  | handle => exact absurd isPrimitive not_isPrimitive_handleType
  | bool => exact absurd rfl notBool
  | primitive => rfl

/-- What a declared record is called natively. -/
theorem Library.nativeSpelling {lib : Library} (distinct : lib.typeNames.Nodup) (target : Target)
    {record : Record} (declared : record ∈ lib.structs ++ lib.classes) :
    NativeSpelling target record.name (lib.typeName (.native target) (.named record.name)) := by
  have declares : lib.Declares record.name .structType ∨ lib.Declares record.name .classType :=
    (List.mem_append.mp declared).imp List.mem_map_of_mem List.mem_map_of_mem
  rw [typeName]
  generalize record.name = name at declares
  by_cases isBuiltIn : ∃ kind, BuiltIn name kind
  · obtain ⟨kind, builtIn⟩ := isBuiltIn
    rw [kindOfName_of_builtIn builtIn]
    cases builtIn with
    | void => exact .primitive isPrimitive_void (by decide)
    | bool => exact .bool
    | handle => exact .handle
    | primitive isPrimitive _ notBool => exact .primitive isPrimitive notBool
  · have notBuiltIn := not_exists.mp isBuiltIn
    rcases declares with isStruct | isClass
    · rw [isStruct.kindOfName_eq distinct notBuiltIn]
      exact .suffixed notBuiltIn
    · rw [isClass.kindOfName_eq distinct notBuiltIn]
      exact .suffixed notBuiltIn

/-! ### Names of a file -/

namespace Library

variable (lib : Library) (names : ClassNames)

/-- The names that a library gives its own types. -/
def ownTypes : List String :=
  lib.enums.map (·.name) ++ (lib.structs ++ lib.classes).map (·.name)

/-- The names of the delegate types of events. -/
def handlerNames : List String := lib.events.map (·.handler.name)

/-- The names of the records natively. -/
def nativeNames (target : Target) : List String :=
  (lib.structs ++ lib.classes).map fun record => lib.typeName (.native target) (.named record.name)

theorem map_name_recordDecls (mode : Mode) :
    (lib.recordDecls mode).map (fun decl => (Declaration.type decl).name) =
      (lib.structs ++ lib.classes).map fun record => lib.typeName mode (.named record.name) := by
  rw [recordDecls, List.map_append, List.map_map, List.map_map, List.map_append]
  rfl

theorem names_applicationChapter (target : Target) :
    (lib.applicationChapter names target).declarations.map Declaration.name =
      [names.functions, names.events] ++ (lib.handlerNames ++ lib.ownTypes) := by
  have records := lib.map_name_recordDecls (.application target)
  rw [declarations_applicationChapter, List.map_append, List.map_append, List.map_map, List.map_map,
    List.map_append, List.append_assoc]
  show _ ++ (_ ++ (_ ++ (lib.recordDecls (.application target)).map fun decl =>
    (Declaration.type decl).name)) = _
  rw [records, List.map_map]
  rfl

theorem names_nativeChapter_perm (target : Target) :
    ((lib.nativeChapter names target).declarations.map Declaration.name).Perm
      (names.ofTarget target ++ lib.nativeNames target) := by
  have records := lib.map_name_recordDecls (.native target)
  rw [declarations_nativeChapter, List.map_append, List.map_append, List.map_map]
  show ([names.entryPoints target, names.nativeEvents target] ++
    ((lib.recordDecls (.native target)).map fun decl => (Declaration.type decl).name) ++
      [names.nativeFunctions target, names.forwarder target]).Perm _
  rw [records, List.append_assoc]
  exact (List.perm_append_comm).append_left _

/-- The names that a file declares: those of the generated classes, of the delegate types, of the
types of the library, and of the native records of each target. -/
theorem names_declarations_perm {output : OutputDecl} {aliases : List AliasDecl} {file : SourceFile}
    (generated : lib.sourceFile? output aliases = some file) :
    (file.declarations.map Declaration.name).Perm
      (ClassNames.all ⟨output.library⟩ (distinctTargets output.targets) ++ (lib.handlerNames ++
        (lib.ownTypes ++ (distinctTargets output.targets).flatMap lib.nativeNames))) := by
  obtain ⟨target, -, chapters⟩ := lib.chapters_of_sourceFile? generated
  have native : ((distinctTargets output.targets).flatMap fun target =>
        (lib.nativeChapter ⟨output.library⟩ target).declarations.map Declaration.name).Perm
      ((distinctTargets output.targets).flatMap (ClassNames.ofTarget ⟨output.library⟩) ++
        (distinctTargets output.targets).flatMap lib.nativeNames) :=
    (List.Perm.flatMap_left _ fun target _ => lib.names_nativeChapter_perm _ target).trans
      (List.flatMap_append_perm _ _ _).symm
  rw [SourceFile.declarations, chapters, List.flatMap_cons, List.flatMap_map, List.map_append,
    List.map_flatMap, names_applicationChapter, ClassNames.all]
  refine (native.append_left _).trans ?_
  simp only [List.append_assoc]
  refine List.Perm.append_left _ ?_
  exact (List.Perm.append_left _ (List.perm_append_comm_assoc _ _ _)).trans
    (List.perm_append_comm_assoc _ _ _)

/-! ### Distinct names -/

/-- No type of a library has a name that is generated, and no record has one native name for two
targets. -/
structure NamesApart (targets : List Target) : Prop where
  classes : ∀ name ∈ lib.ownTypes, name ∉ names.all targets
  handlers : ∀ name ∈ lib.ownTypes, name ∉ lib.handlerNames
  natives : ∀ target ∈ targets, ∀ name ∈ lib.ownTypes, name ∉ lib.nativeNames target
  /-- The native name of a record `bool` is the same for all targets. -/
  bool : .modern ∈ targets → .legacy ∈ targets → ∀ record ∈ lib.structs ++ lib.classes,
    record.name ≠ "bool"

variable {lib names}

theorem nodup_ownTypes (distinct : lib.typeNames.Nodup) : lib.ownTypes.Nodup := by
  have prefixed : lib.typeNames = lib.ownTypes ++ lib.aliases := by
    simp [typeNames, ownTypes]
  rw [prefixed] at distinct
  exact (List.nodup_append'.mp distinct).1

theorem nodup_handlerNames
    (named : ∀ event ∈ lib.events, event.handler.name = event.name ++ "EventHandler")
    (distinct : lib.entryPointNames.Nodup) : lib.handlerNames.Nodup := by
  have handlers : lib.handlerNames = (lib.events.map Event.name).map (· ++ "EventHandler") := by
    rw [List.map_map]
    exact List.map_congr_left named
  have registrations : ((lib.events.map Event.name).map ("Set" ++ ·)).Nodup := by
    rw [List.map_map]
    exact (List.nodup_append'.mp distinct).2.1
  rw [handlers]
  exact registrations.of_map.map fun first second same => (String.append_left_inj _).mp same

/-- The native names for one target are distinct. -/
theorem nodup_nativeNames (distinct : lib.typeNames.Nodup) (target : Target) :
    (lib.nativeNames target).Nodup := by
  have records : ((lib.structs ++ lib.classes).map Record.name).Nodup :=
    (List.nodup_append'.mp (nodup_ownTypes distinct)).2.1
  refine List.Nodup.map_on (fun record declared other alsoDeclared same => ?_) records.of_map
  have spells := lib.nativeSpelling distinct target declared
  have again := lib.nativeSpelling distinct target alsoDeclared
  rw [← same] at again
  exact List.inj_on_of_nodup_map records declared alsoDeclared (spells.unique again).1

/-- The native names for two targets are distinct, unless there is a record `bool` or one whose
native name is its own name. -/
theorem disjoint_nativeNames (distinct : lib.typeNames.Nodup) {target other : Target}
    (different : target ≠ other)
    (notBool : ∀ record ∈ lib.structs ++ lib.classes, record.name ≠ "bool")
    (natives : ∀ name ∈ lib.ownTypes, name ∉ lib.nativeNames target) :
    List.Disjoint (lib.nativeNames target) (lib.nativeNames other) := by
  intro name isNative alsoNative
  obtain ⟨record, declared, rfl⟩ := List.mem_map.mp isNative
  obtain ⟨second, alsoDeclared, same⟩ := List.mem_map.mp alsoNative
  have spells := lib.nativeSpelling distinct target declared
  have again := lib.nativeSpelling distinct other alsoDeclared
  rw [same] at again
  have isPrimitive := (spells.unique again).2.resolve_left different
  refine natives record.name (List.mem_append_right _ (List.mem_map_of_mem declared)) ?_
  rwa [spells.eq_of_isPrimitive isPrimitive (notBool record declared)] at isNative

/-- The generated classes are called neither like a delegate type nor like a native record. -/
theorem all_apart (named : ∀ event ∈ lib.events, event.handler.name = event.name ++ "EventHandler")
    (distinct : lib.typeNames.Nodup) {targets : List Target} :
    ∀ name ∈ names.all targets, name ∉ lib.handlerNames ∧
      ∀ target, name ∉ lib.nativeNames target := by
  have endings : ∀ ending ∈ classEndings [.modern, .legacy], Apart "EventHandler" ending ∧
      (Apart Target.modern.recordSuffix ending ∧ Apart Target.legacy.recordSuffix ending) ∧
        ∀ text ∈ givenNames, Apart text ending := by decide
  intro name isClass
  rw [names.all_eq] at isClass
  obtain ⟨ending, isEnding, rfl⟩ := List.mem_map.mp isClass
  obtain ⟨handlers, suffixes, given⟩ := endings ending (classEndings_subset targets isEnding)
  refine ⟨fun isHandler => ?_, fun target isNative => ?_⟩
  · obtain ⟨event, declared, same⟩ := List.mem_map.mp isHandler
    rw [named event declared] at same
    exact handlers.append_ne event.name names.stem same
  · obtain ⟨record, declared, same⟩ := List.mem_map.mp isNative
    refine (lib.nativeSpelling distinct target declared).ne_append (fun other => ?_) given
      names.stem same
    cases other with
    | modern => exact suffixes.1
    | legacy => exact suffixes.2

/-- The delegate types are not called like native records. -/
theorem handlerNames_apart
    (named : ∀ event ∈ lib.events, event.handler.name = event.name ++ "EventHandler")
    (distinct : lib.typeNames.Nodup) (target : Target) :
    ∀ name ∈ lib.handlerNames, name ∉ lib.nativeNames target := by
  have given : ∀ text ∈ givenNames, Apart text "EventHandler" := by decide
  intro name isHandler isNative
  obtain ⟨event, isEvent, rfl⟩ := List.mem_map.mp isHandler
  obtain ⟨record, declared, same⟩ := List.mem_map.mp isNative
  rw [named event isEvent] at same
  refine (lib.nativeSpelling distinct target declared).ne_append (fun other => ?_) given
    event.name same
  cases other <;> decide

/-- The names of a file are distinct exactly if no type of the library has a generated name. -/
theorem nodup_names_iff (accepted : lib.Accepted)
    (named : ∀ event ∈ lib.events, event.handler.name = event.name ++ "EventHandler")
    {targets : List Target} (distinct : targets.Nodup) :
    (names.all targets ++ (lib.handlerNames ++
        (lib.ownTypes ++ targets.flatMap lib.nativeNames))).Nodup ↔
      lib.NamesApart names targets := by
  have types := accepted.sound.typeNames_nodup
  have classes : ∀ name ∈ names.all targets, name ∉ lib.handlerNames ∧
      ∀ target, name ∉ lib.nativeNames target := all_apart named types
  simp only [List.nodup_append', List.disjoint_append_right]
  constructor
  · rintro ⟨-, ⟨-, ⟨-, natives, ownNative⟩, handlerOwn, -⟩, -, classOwn, -⟩
    refine ⟨fun name isOwn isClass => classOwn isClass isOwn,
      fun name isOwn isHandler => handlerOwn isHandler isOwn,
      fun target isTarget name isOwn isNative =>
        ownNative isOwn (List.mem_flatMap.mpr ⟨target, isTarget, isNative⟩), ?_⟩
    intro hasModern hasLegacy record declared isBool
    have symmetric : Std.Symm (Function.onFun List.Disjoint lib.nativeNames) :=
      ⟨fun _ _ disjoint _ isSecond isFirst => disjoint isFirst isSecond⟩
    have disjoint : List.Disjoint (lib.nativeNames .modern) (lib.nativeNames .legacy) :=
      (List.nodup_flatMap.mp natives).2.forall hasModern hasLegacy (by decide)
    have isNative : ∀ target, nativeBool ∈ lib.nativeNames target := by
      intro target
      have spelled : lib.typeName (.native target) (.named "bool") = nativeBool :=
        typeName_native_bool target
      rw [← spelled, ← isBool]
      exact List.mem_map_of_mem declared
    exact disjoint (isNative .modern) (isNative .legacy)
  · intro apart
    have natives : (targets.flatMap lib.nativeNames).Nodup := by
      refine List.nodup_flatMap.mpr ⟨fun target _ => nodup_nativeNames types target,
        distinct.imp_of_mem fun {target other} isTarget alsoTarget different => ?_⟩
      refine disjoint_nativeNames types different ?_ (apart.natives target isTarget)
      cases target with
      | modern =>
        cases other with
        | modern => exact absurd rfl different
        | legacy => exact apart.bool isTarget alsoTarget
      | legacy =>
        cases other with
        | modern => exact apart.bool alsoTarget isTarget
        | legacy => exact absurd rfl different
    have flattened : ∀ {name : String}, (∀ target ∈ targets, name ∉ lib.nativeNames target) →
        name ∉ targets.flatMap lib.nativeNames := by
      intro name outside inside
      obtain ⟨target, isTarget, isNative⟩ := List.mem_flatMap.mp inside
      exact outside target isTarget isNative
    refine ⟨names.nodup_all distinct,
      ⟨nodup_handlerNames named accepted.sound.entryPointNames_nodup,
        ⟨nodup_ownTypes types, natives, fun name isOwn => ?_⟩, fun name isHandler isOwn => ?_,
        fun name isHandler => ?_⟩, fun name isClass => (classes name isClass).1,
      fun name isClass isOwn => apart.classes name isOwn isClass, fun name isClass => ?_⟩
    · exact flattened fun target isTarget => apart.natives target isTarget name isOwn
    · exact apart.handlers name isOwn isHandler
    · exact flattened fun target _ => handlerNames_apart named types target name isHandler
    · exact flattened fun target _ => (classes name isClass).2 target

end Library

/-- In the file for an accepted schema the names of all declarations are distinct exactly if no type
of the library has a generated name. -/
theorem Schema.declared_names_distinct_iff {schema : Schema} (accepted : schema.toLibrary.Accepted)
    {output : OutputDecl} (nonempty : output.targets ≠ []) (aliases : List AliasDecl) :
    ∃ file, schema.toLibrary.sourceFile? output aliases = some file ∧
      ((file.declarations.map Declaration.name).Nodup ↔
        schema.toLibrary.NamesApart ⟨output.library⟩ (distinctTargets output.targets)) := by
  have distinct : (distinctTargets output.targets).Nodup := by
    rw [distinctTargets_eq]
    exact nodup_eraseDups output.targets
  have named : ∀ event ∈ schema.toLibrary.events,
      event.handler.name = event.name ++ "EventHandler" := by
    intro event declared
    obtain ⟨decl, -, rfl⟩ := List.mem_map.mp declared
    rfl
  obtain ⟨first, -, generated⟩ :=
    schema.toLibrary.sourceFile?_of_targets output aliases nonempty
  refine ⟨_, generated, ?_⟩
  rw [(Library.names_declarations_perm _ generated).nodup_iff]
  exact Library.nodup_names_iff accepted named distinct

namespace Sample

/-- A schema with a struct, a class of a given name, an enum and an event. -/
def keeping (className : String) (targets : List Target) : Schema :=
  { output :=
      { namespaceName := "Demo", library := "Demo", file := "Demo.cs", license := none, usings := []
        targets }
    aliases := []
    functions := []
    events := [⟨"Moved", [⟨"vmid", "int", none, none⟩]⟩]
    enums := [⟨"Mode", "int", false, [⟨"Idle", "0"⟩]⟩]
    structs := [⟨"Point", [⟨"x", "int", none, none⟩]⟩]
    classes := [⟨className, [⟨"origin", "Point", none, none⟩]⟩] }

/-- All names are distinct, for both targets. -/
theorem keeping_shape_distinct :
    ∃ file, (keeping "Shape" [.modern, .legacy]).toLibrary.Accepted ∧
      (keeping "Shape" [.modern, .legacy]).toLibrary.sourceFile?
        (keeping "Shape" [.modern, .legacy]).output [] = some file ∧
      (file.declarations.map Declaration.name).Nodup := by
  have accepted : (keeping "Shape" [.modern, .legacy]).toLibrary.Accepted := by cbv
  have nonempty : (keeping "Shape" [.modern, .legacy]).output.targets ≠ [] := by decide
  obtain ⟨file, generated, distinct_iff⟩ :=
    Schema.declared_names_distinct_iff accepted nonempty []
  refine ⟨file, accepted, generated, distinct_iff.mpr ?_⟩
  exact
    { classes := by decide
      handlers := by decide
      natives := by decide
      bool := by decide }

/-- The check accepts a class with the native name of a struct, and the name is declared twice. -/
theorem keeping_pointNative_not_distinct :
    ∃ file, (keeping "PointNative" [.modern]).toLibrary.Accepted ∧
      (keeping "PointNative" [.modern]).toLibrary.sourceFile?
        (keeping "PointNative" [.modern]).output [] = some file ∧
      (file.declarations.map Declaration.name).count "PointNative" = 2 ∧
      ¬ (file.declarations.map Declaration.name).Nodup := by
  have accepted : (keeping "PointNative" [.modern]).toLibrary.Accepted := by cbv
  refine ⟨_, accepted, rfl, by decide, by decide⟩

end Sample

end InteropGlue
