import Mathlib.Data.List.Pairwise
import InteropGlue.Proofs.Library.Soundness
/-!
# What declared names mean

A name gets its kind from the first of several rules that applies to it. The rules are stated here
one by one and without their order: the names with a built-in meaning, the declarations, and the
names of the framework. The check of a library keeps the declarations apart from each other, so
looking a declared record up gives that record. It does not keep them apart from the built-in names,
which come first: a declaration of such a name is accepted and means nothing.

## Main Definitions

* `BuiltIn` — a name with a meaning in every library.
* `Library.Declares` — a declaration gives a name a kind.
* `Library.MayMean` — some rule gives a name a kind.

## Main Results

* `Library.kindOfName_of_builtIn` — built-in names mean the same in every library.
* `Library.mayMean_kindOfName` — the kind of a name comes from one of the rules.
* `Library.declared_names_mean` — when declared names mean what they declare, and when no name falls
  under two rules.
-/

namespace InteropGlue

/-! ### The rules -/

/-- The name is a primitive in one of its spellings. -/
def IsPrimitive (name : String) : Prop := ∃ entry ∈ primitives, name ∈ entry.1 :: entry.2

/-- A name has a kind in every library. -/
inductive BuiltIn : String → Kind → Prop
  | void : BuiltIn "void" .void
  | bool : BuiltIn "bool" .bool
  | handle : BuiltIn handleType .handle
  | primitive {name : String} (isPrimitive : IsPrimitive name) (notVoid : name ≠ "void")
    (notBool : name ≠ "bool") : BuiltIn name .primitive

/-- The names that a library declares as types of a kind. -/
def Library.declaredAs (lib : Library) : Kind → List String
  | .enumType => lib.enums.map (·.name)
  | .structType => lib.structs.map (·.name)
  | .classType => lib.classes.map (·.name)
  | .external => lib.aliases
  | _ => []

/-- A declaration of a library gives a name a kind. -/
def Library.Declares (lib : Library) (name : String) (kind : Kind) : Prop :=
  name ∈ lib.declaredAs kind

instance {lib : Library} {name : String} {kind : Kind} : Decidable (lib.Declares name kind) :=
  inferInstanceAs (Decidable (name ∈ lib.declaredAs kind))

/-- Some rule gives a name a kind, whatever the other rules say. -/
inductive Library.MayMean (lib : Library) (name : String) : Kind → Prop
  | builtIn {kind : Kind} (isBuiltIn : BuiltIn name kind) : lib.MayMean name kind
  | declared {kind : Kind} (declares : lib.Declares name kind) : lib.MayMean name kind
  | framework (isFramework : name ∈ frameworkTypes) : lib.MayMean name .external

/-! ### Built-in names -/

theorem isSome_canonicalPrimitive?_iff {name : String} :
    (canonicalPrimitive? name).isSome = true ↔ IsPrimitive name := by
  simp only [canonicalPrimitive?, Option.isSome_map, List.find?_isSome, Bool.or_eq_true, beq_iff_eq,
    List.contains_iff_mem, IsPrimitive, List.mem_cons, eq_comm (a := name)]

theorem isPrimitive_void : IsPrimitive "void" :=
  ⟨("void", ["Void"]), List.mem_cons_self, List.mem_cons_self⟩

theorem isPrimitive_bool : IsPrimitive "bool" :=
  ⟨("bool", ["Boolean"]), by decide, List.mem_cons_self⟩

theorem not_isPrimitive_handleType : ¬ IsPrimitive handleType := by
  rw [← isSome_canonicalPrimitive?_iff]
  decide

/-- The built-in names are the handle and the primitives. -/
theorem exists_builtIn_iff {name : String} :
    (∃ kind, BuiltIn name kind) ↔ name = handleType ∨ IsPrimitive name := by
  constructor
  · rintro ⟨kind, builtIn⟩
    cases builtIn with
    | void => exact .inr isPrimitive_void
    | bool => exact .inr isPrimitive_bool
    | handle => exact .inl rfl
    | primitive isPrimitive => exact .inr isPrimitive
  · rintro (rfl | isPrimitive)
    · exact ⟨_, .handle⟩
    by_cases isVoid : name = "void"
    · exact ⟨.void, isVoid ▸ .void⟩
    by_cases isBool : name = "bool"
    · exact ⟨.bool, isBool ▸ .bool⟩
    exact ⟨_, .primitive isPrimitive isVoid isBool⟩

/-- The handle and the primitives are no names of the framework. -/
theorem BuiltIn.notMem_frameworkTypes {name : String} {kind : Kind} (builtIn : BuiltIn name kind) :
    name ∉ frameworkTypes := by
  have apart : ∀ other ∈ frameworkTypes, other ≠ handleType ∧
      (canonicalPrimitive? other).isSome = false := by decide
  intro isFramework
  obtain ⟨notHandle, notPrimitive⟩ := apart name isFramework
  rcases exists_builtIn_iff.mp ⟨kind, builtIn⟩ with isHandle | isPrimitive
  · exact notHandle isHandle
  · rw [isSome_canonicalPrimitive?_iff.mpr isPrimitive] at notPrimitive
    cases notPrimitive

namespace Library

variable {lib : Library} {name : String} {kind other : Kind}

/-- A built-in name means the same in every library, whatever the library declares. -/
theorem kindOfName_of_builtIn (builtIn : BuiltIn name kind) : lib.kindOfName name = kind := by
  unfold kindOfName
  cases builtIn with
  | void => rfl
  | bool => rfl
  | handle => rfl
  | primitive isPrimitive notVoid notBool =>
    have notHandle : name ≠ handleType := by
      rintro rfl
      exact not_isPrimitive_handleType isPrimitive
    rw [if_neg notVoid, if_neg notBool, if_neg notHandle,
      if_pos (isSome_canonicalPrimitive?_iff.mpr isPrimitive)]

/-- A name that is not built in gets its kind from the declarations and the framework. -/
theorem kindOfName_of_not_builtIn (notBuiltIn : ∀ kind, ¬ BuiltIn name kind) :
    lib.kindOfName name =
      if (lib.struct? name).isSome then .structType
      else if (lib.class? name).isSome then .classType
      else if lib.enums.any (·.name == name) then .enumType
      else if lib.aliases.contains name || frameworkTypes.contains name then .external
      else .unknown := by
  have outside := exists_builtIn_iff.not.mp (not_exists.mpr notBuiltIn)
  rw [not_or] at outside
  obtain ⟨notHandle, notPrimitive⟩ := outside
  have notVoid : name ≠ "void" := fun same => notPrimitive (same ▸ isPrimitive_void)
  have notBool : name ≠ "bool" := fun same => notPrimitive (same ▸ isPrimitive_bool)
  unfold kindOfName
  rw [if_neg notVoid, if_neg notBool, if_neg notHandle,
    if_neg (isSome_canonicalPrimitive?_iff.not.mpr notPrimitive)]

/-! ### Declarations -/

/-- The kinds of declarations, in the order of the list of all declared names. -/
def declarableKinds : List Kind := [.enumType, .structType, .classType, .external]

theorem typeNames_eq : lib.typeNames = declarableKinds.flatMap lib.declaredAs := by
  simp [typeNames, declarableKinds, declaredAs]

theorem Declares.mem_declarableKinds (declares : lib.Declares name kind) :
    kind ∈ declarableKinds := by
  cases kind with
  | enumType | structType | classType | external => decide
  | _ => exact absurd declares List.not_mem_nil

theorem Declares.mem_typeNames (declares : lib.Declares name kind) : name ∈ lib.typeNames := by
  rw [typeNames_eq]
  exact List.mem_flatMap.mpr ⟨kind, declares.mem_declarableKinds, declares⟩

/-- Where no name is declared twice, none is declared in two ways. -/
theorem Declares.unique (distinct : lib.typeNames.Nodup) (declares : lib.Declares name kind)
    (again : lib.Declares name other) : kind = other := by
  rw [typeNames_eq, List.nodup_flatMap] at distinct
  by_contra different
  have symmetric : Std.Symm (Function.onFun List.Disjoint lib.declaredAs) :=
    ⟨fun _ _ disjoint _ isSecond isFirst => disjoint isFirst isSecond⟩
  have apart : List.Disjoint (lib.declaredAs kind) (lib.declaredAs other) :=
    distinct.2.forall declares.mem_declarableKinds again.mem_declarableKinds different
  exact apart declares again

theorem isSome_struct?_iff : (lib.struct? name).isSome = true ↔ lib.Declares name .structType := by
  simp [struct?, Declares, declaredAs]

theorem isSome_class?_iff : (lib.class? name).isSome = true ↔ lib.Declares name .classType := by
  simp [class?, Declares, declaredAs]

theorem any_enum_iff : lib.enums.any (·.name == name) = true ↔ lib.Declares name .enumType := by
  simp [Declares, declaredAs]

theorem contains_external_iff :
    (lib.aliases.contains name || frameworkTypes.contains name) = true ↔
      lib.Declares name .external ∨ name ∈ frameworkTypes := by
  simp [Declares, declaredAs]

/-- The kind of a name that means something comes from one of the rules. -/
theorem mayMean_kindOfName (known : lib.kindOfName name ≠ .unknown) :
    lib.MayMean name (lib.kindOfName name) := by
  by_cases isBuiltIn : ∃ kind, BuiltIn name kind
  · obtain ⟨kind, builtIn⟩ := isBuiltIn
    rw [kindOfName_of_builtIn builtIn]
    exact .builtIn builtIn
  rw [kindOfName_of_not_builtIn (not_exists.mp isBuiltIn)] at known ⊢
  simp only [isSome_struct?_iff, isSome_class?_iff, any_enum_iff, contains_external_iff] at known ⊢
  split_ifs at known ⊢ with isStruct isClass isEnum isExternal
  · exact .declared isStruct
  · exact .declared isClass
  · exact .declared isEnum
  · rcases isExternal with isAlias | isFramework
    · exact .declared isAlias
    · exact .framework isFramework
  · exact absurd rfl known

/-- A declared name that is not built in means what it declares. -/
theorem Declares.kindOfName_eq (distinct : lib.typeNames.Nodup) (declares : lib.Declares name kind)
    (notBuiltIn : ∀ other, ¬ BuiltIn name other) : lib.kindOfName name = kind := by
  -- The rules for other kinds of declarations do not apply.
  have others : ∀ other, other ≠ kind → ¬ lib.Declares name other := fun other different again =>
    different (again.unique distinct declares)
  have declarable := declares.mem_declarableKinds
  simp only [declarableKinds, List.mem_cons, List.not_mem_nil, or_false] at declarable
  rw [kindOfName_of_not_builtIn notBuiltIn]
  simp only [isSome_struct?_iff, isSome_class?_iff, any_enum_iff, contains_external_iff]
  rcases declarable with rfl | rfl | rfl | rfl
  · rw [if_neg (others _ (by decide)), if_neg (others _ (by decide)), if_pos declares]
  · rw [if_pos declares]
  · rw [if_neg (others _ (by decide)), if_pos declares]
  · rw [if_neg (others _ (by decide)), if_neg (others _ (by decide)), if_neg (others _ (by decide)),
      if_pos (.inl declares)]

/-- A declared name means what it declares exactly if it is not built in. -/
theorem Declares.kindOfName_eq_iff (distinct : lib.typeNames.Nodup)
    (declares : lib.Declares name kind) :
    lib.kindOfName name = kind ↔ ∀ other, ¬ BuiltIn name other := by
  refine ⟨fun same other builtIn => ?_, declares.kindOfName_eq distinct⟩
  have apart := declares.mem_declarableKinds
  rw [← same, kindOfName_of_builtIn builtIn] at apart
  cases builtIn <;> exact absurd apart (by decide)

/-! ### All rules together -/

/-- Where no name is declared twice, two rules give a name different kinds only if a declared name
is built in, or if a type has the name of one of the framework. -/
theorem mayMean_unique_iff (distinct : lib.typeNames.Nodup) :
    (∀ name kind other, lib.MayMean name kind → lib.MayMean name other → kind = other) ↔
      ∀ name kind, lib.Declares name kind →
        (∀ other, ¬ BuiltIn name other) ∧ (name ∈ frameworkTypes → kind = .external) := by
  constructor
  · intro unique name kind declares
    refine ⟨fun other builtIn => ?_, fun isFramework => ?_⟩
    · have same := unique name kind other (.declared declares) (.builtIn builtIn)
      have apart := same ▸ declares.mem_declarableKinds
      cases builtIn <;> exact absurd apart (by decide)
    · exact unique name kind _ (.declared declares) (.framework isFramework)
  · intro apart name kind other first second
    cases first with
    | builtIn isBuiltIn =>
      cases second with
      | builtIn again =>
        calc
          kind = lib.kindOfName name := (kindOfName_of_builtIn isBuiltIn).symm
          _ = other := kindOfName_of_builtIn again
      | declared declares => exact absurd isBuiltIn ((apart name other declares).1 kind)
      | framework isFramework => exact absurd isFramework isBuiltIn.notMem_frameworkTypes
    | declared declares =>
      cases second with
      | builtIn isBuiltIn => exact absurd isBuiltIn ((apart name kind declares).1 other)
      | declared again => exact declares.unique distinct again
      | framework isFramework => exact (apart name kind declares).2 isFramework
    | framework isFramework =>
      cases second with
      | builtIn isBuiltIn => exact absurd isFramework isBuiltIn.notMem_frameworkTypes
      | declared declares => exact ((apart name other declares).2 isFramework).symm
      | framework => rfl

/-- In an accepted library a declared record is found by its name; a declared name means what it
declares exactly if it is not built in; and no name falls under two rules exactly if no declared
name is built in and no declared type has the name of one of the framework. -/
theorem declared_names_mean (accepted : lib.Accepted) :
    (∀ record ∈ lib.structs, lib.struct? record.name = some record) ∧
      (∀ record ∈ lib.classes, lib.class? record.name = some record) ∧
      (∀ name kind, lib.Declares name kind →
        (lib.kindOf (.named name) = kind ↔ ∀ other, ¬ BuiltIn name other)) ∧
      ((∀ name kind other, lib.MayMean name kind → lib.MayMean name other → kind = other) ↔
        ∀ name kind, lib.Declares name kind →
          (∀ other, ¬ BuiltIn name other) ∧ (name ∈ frameworkTypes → kind = .external)) := by
  have distinct := accepted.sound.typeNames_nodup
  refine ⟨?_, ?_, ?_, mayMean_unique_iff distinct⟩
  · intro record declared
    exact struct?_of_mem distinct declared
  · intro record declared
    exact class?_of_mem distinct declared
  · intro name kind declares
    exact declares.kindOfName_eq_iff distinct

end Library

namespace Sample

/-- A library that declares a type of each kind and an alias. -/
def declaring : Library :=
  { Library.empty with
    enums := [⟨"KeyCode", .named "ushort", false, [⟨"Tab", "9"⟩]⟩]
    structs := [⟨"Point", [⟨"x", .named "int", none⟩]⟩]
    classes := [⟨"TextItems", [⟨"origin", .named "Point", none⟩]⟩]
    aliases := ["WindowHandle", "IntPtr"] }

/-- Each declared name means what it declares, and no rule is in the way of another. -/
theorem declaring_names_mean :
    declaring.Accepted ∧ declaring.kindOf (.named "KeyCode") = .enumType ∧
      declaring.kindOf (.named "Point") = .structType ∧
      declaring.kindOf (.named "TextItems") = .classType ∧
      declaring.kindOf (.named "IntPtr") = .external ∧
      ∀ name kind other, declaring.MayMean name kind → declaring.MayMean name other →
        kind = other := by
  have accepted : declaring.Accepted := by cbv
  obtain ⟨-, -, means, unique⟩ := Library.declared_names_mean accepted
  have apart : ∀ name ∈ declaring.typeNames, ∀ other, ¬ BuiltIn name other := by
    intro name declared other builtIn
    have outside : ∀ name ∈ declaring.typeNames,
        name ≠ handleType ∧ (canonicalPrimitive? name).isSome = false := by decide
    obtain ⟨notHandle, notPrimitive⟩ := outside name declared
    rcases exists_builtIn_iff.mp ⟨other, builtIn⟩ with isHandle | isPrimitive
    · exact notHandle isHandle
    · rw [isSome_canonicalPrimitive?_iff.mpr isPrimitive] at notPrimitive
      cases notPrimitive
  have each : ∀ name kind, declaring.Declares name kind → declaring.kindOf (.named name) = kind :=
    fun name kind declares => (means name kind declares).mpr (apart name declares.mem_typeNames)
  refine ⟨accepted, each _ .enumType (by decide), each _ .structType (by decide),
    each _ .classType (by decide), each _ .external (by decide), unique.mpr ?_⟩
  intro name kind declares
  refine ⟨apart name declares.mem_typeNames, fun isFramework => ?_⟩
  -- The alias of a framework type is the one name that two rules give a kind, which is the same.
  have only : ∀ name ∈ declaring.typeNames, name ∈ frameworkTypes → name = "IntPtr" := by decide
  obtain rfl := only name declares.mem_typeNames isFramework
  exact declares.unique accepted.sound.typeNames_nodup (by decide)

/-- A library with a struct of a built-in name. -/
def shadowed : Library := { Library.empty with structs := [⟨"int", [⟨"x", .named "long", none⟩]⟩] }

/-- The check accepts a struct with the name of a primitive, which means the primitive. -/
theorem shadowed_int_is_primitive :
    shadowed.Accepted ∧ "int" ∈ shadowed.structs.map (·.name) ∧ IsPrimitive "int" ∧
      shadowed.kindOf (.named "int") ≠ .structType := by
  refine ⟨by cbv, by decide, ?_, by decide⟩
  rw [← isSome_canonicalPrimitive?_iff]
  decide

end Sample

end InteropGlue
