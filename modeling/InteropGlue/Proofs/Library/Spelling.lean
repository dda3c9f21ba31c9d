import InteropGlue.Proofs.Library.Soundness
import InteropGlue.Surface
/-!
# Spellings on the two surfaces

A type is spelled alike on every surface unless its innermost name is a handle, a record or `bool`.
On the application surface every name is spelled as it is.

## Main Results

* `Library.typeName_eq_of_plain` — a type without handles, records and booleans has one spelling.
* `Library.typeName_ne_void` — only `void` is spelled `void`.
* `Library.UnmarkedNames.typeName` — array marks are for arrays only, if no type is named with one.
-/

namespace InteropGlue.Library

variable {lib : Library}

@[simp] theorem typeName_application_named (target : Target) (name : String) :
    lib.typeName (.application target) (.named name) = name := rfl

@[simp] theorem typeName_array (mode : Mode) (element : TypeRef) (count : Option String) :
    lib.typeName mode (.array element count) = lib.typeName mode element ++ "[]" := rfl

theorem typeName_native_handle (target : Target) {name : String}
    (kind : lib.kindOfName name = .handle) :
    lib.typeName (.native target) (.named name) = target.handleName := by
  simp [typeName, Mode.native, kind]

theorem typeName_native_bool (target : Target) :
    lib.typeName (.native target) (.named "bool") = nativeBool := by
  simp [typeName, Mode.native, kindOfName]

theorem typeName_native_record (target : Target) {name : String}
    (kind : lib.kindOfName name = .structType ∨ lib.kindOfName name = .classType) :
    lib.typeName (.native target) (.named name) = name ++ target.recordSuffix := by
  rcases kind with kind | kind <;> simp [typeName, Mode.native, kind]

theorem typeName_native_integer (target : Target) {name : String}
    (integer : name ∈ integerPrimitives) : lib.typeName (.native target) (.named name) = name := by
  simp [typeName, Mode.native, kindOfName_of_integer integer]

theorem typeName_void (mode : Mode) : lib.typeName mode (.named "void") = "void" := by
  have kind : lib.kindOfName "void" = .void := by simp [kindOfName]
  rw [typeName, kind]
  cases mode.isNative <;> rfl

theorem kindOfName_eq_handle_iff {name : String} :
    lib.kindOfName name = .handle ↔ name = handleType := by
  simp only [kindOfName]
  grind [handleType]

theorem kindOfName_eq_bool_iff {name : String} : lib.kindOfName name = .bool ↔ name = "bool" := by
  simp only [kindOfName]
  grind

/-- The handle is an integer natively and keeps its name on the application surface. -/
theorem typeName_handle (mode : Mode) :
    lib.typeName mode (.named handleType) =
      if mode.isNative then mode.target.handleName else handleType := by
  rw [typeName, kindOfName_eq_handle_iff.mpr rfl]
  cases mode.isNative <;> rfl

/-- A type without handles, records and booleans is spelled alike on all surfaces. -/
theorem typeName_eq_of_plain {type : TypeRef} (plain : lib.PlainArray type) (mode other : Mode) :
    lib.typeName mode type = lib.typeName other type := by
  obtain ⟨notConverted, notBool⟩ := plain
  induction type with
  | named name =>
    have isName : ∀ surface : Mode, lib.typeName surface (.named name) = name := by
      intro surface
      rw [typeName]
      rw [Converted, TypeRef.innermost] at notConverted
      split <;> simp_all [kindOfName_eq_bool_iff, TypeRef.innermost]
    rw [isName, isName]
  | array element count ih =>
    rw [typeName_array, typeName_array, ih notConverted notBool]

/-- Only `void` is spelled `void`. -/
theorem typeName_ne_void {type : TypeRef} (mode : Mode) (notVoid : type ≠ .named "void") :
    lib.typeName mode type ≠ "void" := by
  have suffixed : ∀ (stem : String) (last : Char), last ≠ 'd' →
      ∀ ending : String, ending.toList.getLast? = some last → stem ++ ending ≠ "void" := by
    intro stem last different ending isLast same
    have endings := congrArg (fun text => text.toList.getLast?) same
    simp [isLast] at endings
    exact different endings
  cases type with
  | array element count => exact suffixed _ ']' (by decide) "[]" (by decide)
  | named name =>
    have different : name ≠ "void" := fun same => notVoid (by rw [same])
    rw [typeName]
    split
    · cases mode.target <;> decide
    · decide
    · cases mode.target
      · exact suffixed _ 'e' (by decide) "Native" (by decide)
      · exact suffixed _ 'y' (by decide) "NativeLegacy" (by decide)
    · cases mode.target
      · exact suffixed _ 'e' (by decide) "Native" (by decide)
      · exact suffixed _ 'y' (by decide) "NativeLegacy" (by decide)
    · exact different

/-! ### Array marks -/

/-- No declared type has an array mark in its name. -/
def UnmarkedNames (lib : Library) : Prop := ∀ name ∈ lib.typeNames, '[' ∉ name.toList

/-- A name that means something has no array mark. -/
theorem UnmarkedNames.of_known (unmarked : lib.UnmarkedNames) {name : String}
    (known : lib.kindOfName name ≠ .unknown) : '[' ∉ name.toList := by
  have primitive : ∀ entry ∈ primitives, '[' ∉ entry.1.toList ∧ ∀ other ∈ entry.2,
      '[' ∉ other.toList := by decide
  have framework : ∀ other ∈ frameworkTypes, '[' ∉ other.toList := by decide
  have declared : ∀ {α : Type} {named : α → String} {entries : List α},
      (∀ entry ∈ entries, named entry ∈ lib.typeNames) →
        (entries.find? (named · == name)).isSome → '[' ∉ name.toList := by
    intro α named entries listed found
    obtain ⟨entry, member, same⟩ := List.find?_isSome.mp found
    rw [← beq_iff_eq.mp same]
    exact unmarked _ (listed entry member)
  simp only [kindOfName] at known
  split at known
  · rename_i same
    exact same ▸ by decide
  split at known
  · rename_i same
    exact same ▸ by decide
  split at known
  · rename_i same
    exact same ▸ by decide
  split at known
  · rename_i isPrimitive
    rw [canonicalPrimitive?, Option.isSome_map, List.find?_isSome] at isPrimitive
    obtain ⟨entry, member, same⟩ := isPrimitive
    rcases (Bool.or_eq_true _ _).mp same with same | other
    · exact beq_iff_eq.mp same ▸ (primitive entry member).1
    · exact (primitive entry member).2 name (List.contains_iff_mem.mp other)
  split at known
  · rename_i found
    refine declared (fun record member => ?_) found
    simp only [typeNames, List.mem_append]
    exact .inl (.inl (.inr (List.mem_map_of_mem member)))
  split at known
  · rename_i found
    refine declared (fun record member => ?_) found
    simp only [typeNames, List.mem_append]
    exact .inl (.inr (List.mem_map_of_mem member))
  split at known
  · rename_i found
    obtain ⟨enum, member, same⟩ := List.any_eq_true.mp found
    rw [← beq_iff_eq.mp same]
    refine unmarked _ ?_
    simp only [typeNames, List.mem_append]
    exact .inl (.inl (.inl (List.mem_map_of_mem member)))
  split at known
  · rename_i found
    rcases (Bool.or_eq_true _ _).mp found with isAlias | isFramework
    · refine unmarked name ?_
      simp only [typeNames, List.mem_append]
      exact .inr (List.contains_iff_mem.mp isAlias)
    · exact framework name (List.contains_iff_mem.mp isFramework)
  · exact absurd rfl known

/-- The spelling of a name that means something has no array mark. -/
theorem UnmarkedNames.typeName (unmarked : lib.UnmarkedNames) (mode : Mode) {name : String}
    (known : lib.kindOfName name ≠ .unknown) :
    '[' ∉ (lib.typeName mode (.named name)).toList := by
  have bare := unmarked.of_known known
  rw [Library.typeName]
  split
  · cases mode.target <;> decide
  · decide
  · cases mode.target <;> simp [Target.recordSuffix, bare]
  · cases mode.target <;> simp [Target.recordSuffix, bare]
  · exact bare

end InteropGlue.Library
