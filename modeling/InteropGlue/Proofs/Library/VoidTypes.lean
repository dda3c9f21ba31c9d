import InteropGlue.Proofs.Library.Soundness
/-!
# Where `void` stands

The name `void` means something, so the search for names without a meaning passes over it. What
keeps it out of a place is a rule about that place. There are three: the elements of an array are
not `void`, a parameter is not, and the values of an enum are integers. Together they leave two
places for it, and in both it is the whole type: what a function returns, where it belongs, and the
field of a record, for which there is no rule.

## Main Definitions

* `TypeRef.Inside` — a type within another one, at some array level.
* `Library.Writes` — the types that a library writes, by their use.
* `Library.VoidOnly` — `void` is the whole of a type, and only in some uses.

## Main Results

* `Library.void_confined` — where `void` stands in an accepted library, and when it is only
  returned.
-/

namespace InteropGlue

/-! ### Types inside types -/

/-- A type stands inside another one, under a number of array levels. -/
inductive TypeRef.Inside (part : TypeRef) : Nat → TypeRef → Prop
  | whole : TypeRef.Inside part 0 part
  | element {level : Nat} {type : TypeRef} (count : Option String)
    (inside : TypeRef.Inside part level type) :
    TypeRef.Inside part (level + 1) (.array type count)

/-- The name inside all array levels is the only one. -/
theorem TypeRef.inside_named_iff {name : String} {level : Nat} {type : TypeRef} :
    TypeRef.Inside (.named name) level type ↔ type.innermost = name ∧ type.depth = level := by
  constructor
  · intro inside
    induction inside with
    | whole => exact ⟨rfl, rfl⟩
    | element count _ ih => exact ⟨ih.1, congrArg (· + 1) ih.2⟩
  · rintro ⟨rfl, rfl⟩
    induction type with
    | named name => exact .whole
    | array element count ih => exact .element count ih

/-! ### Types in a library -/

/-- What a type is written for. -/
inductive TypeUse
  /-- The values of an enum. -/
  | underlying
  /-- A field of a struct or class. -/
  | field
  /-- What a function or the handler of an event returns. -/
  | returned
  /-- A parameter of a function or of the handler of an event. -/
  | param
  deriving DecidableEq, Repr

namespace Library

variable (lib : Library)

/-- The types that a library writes, by their use. -/
inductive Writes : TypeUse → TypeRef → Prop
  | underlying {enum : Enum} (declared : enum ∈ lib.enums) : Writes .underlying enum.underlying
  | field {record : Record} {field : Field} (declared : record ∈ lib.structs ++ lib.classes)
    (isField : field ∈ record.fields) : Writes .field field.type
  | returned {f : Function} (declared : f ∈ lib.signatures) : Writes .returned f.returnType
  | param {f : Function} {p : Param} (declared : f ∈ lib.signatures) (isParam : p ∈ f.params) :
    Writes .param p.type

/-- Wherever `void` stands in a type, it is the whole type, in one of the given uses. -/
def VoidOnly (uses : List TypeUse) : Prop :=
  ∀ use type level, lib.Writes use type → TypeRef.Inside (.named "void") level type →
    level = 0 ∧ use ∈ uses

variable {lib}

/-- A type that means something at every level holds `void` as a whole or not at all. -/
theorem Resolves.void_whole {type : TypeRef} {level : Nat} (resolves : lib.Resolves type)
    (inside : TypeRef.Inside (.named "void") level type) : level = 0 ∧ type = .named "void" := by
  obtain ⟨isVoid, depth⟩ := TypeRef.inside_named_iff.mp inside
  cases type with
  | named name => exact ⟨depth.symm, congrArg TypeRef.named isVoid⟩
  | array element count => exact absurd isVoid (resolves.2 (Nat.succ_pos _))

/-- No integer type holds `void`. -/
theorem not_inside_of_isInteger {type : TypeRef} {level : Nat} (integer : type.IsInteger) :
    ¬ TypeRef.Inside (.named "void") level type := by
  obtain ⟨name, isPrimitive, rfl⟩ := integer
  rw [TypeRef.inside_named_iff]
  rintro ⟨rfl, -⟩
  exact absurd isPrimitive (by decide)

/-- In a library without defects `void` is the whole of a type that a function returns or that a
field has. -/
theorem Sound.void_returned_or_field (sound : lib.Sound) : lib.VoidOnly [.returned, .field] := by
  intro use type level written inside
  cases written with
  | underlying declared =>
    exact absurd inside (not_inside_of_isInteger (sound.enum_integer _ declared))
  | field declared isField =>
    exact ⟨((sound.field_resolves _ declared _ isField).void_whole inside).1, by decide⟩
  | returned declared => exact ⟨((sound.return_resolves _ declared).void_whole inside).1, by decide⟩
  | param declared isParam =>
    have isVoid := ((sound.param_resolves _ declared _ isParam).void_whole inside).2
    exact absurd isVoid (sound.param_not_void _ declared _ isParam)

/-- In an accepted library `void` stands nowhere inside a type, and is nothing but a type that is
returned or a type of a field. It is only returned exactly if no field is `void`. -/
theorem void_confined (accepted : lib.Accepted) :
    lib.VoidOnly [.returned, .field] ∧
      (lib.VoidOnly [.returned] ↔
        ∀ record ∈ lib.structs ++ lib.classes, ∀ field ∈ record.fields,
          field.type ≠ .named "void") := by
  have confined := accepted.sound.void_returned_or_field
  refine ⟨confined, fun returned record declared field isField isVoid => ?_, fun noField => ?_⟩
  · have written : lib.Writes .field (.named "void") := isVoid ▸ .field declared isField
    have isReturned := (returned .field _ 0 written .whole).2
    exact absurd isReturned (by decide)
  · intro use type level written inside
    obtain ⟨whole, isUse⟩ := confined use type level written inside
    refine ⟨whole, ?_⟩
    cases written with
    | returned => decide
    | field declared isField =>
      have isVoid := ((accepted.sound.field_resolves _ declared _ isField).void_whole inside).2
      exact absurd isVoid (noField _ declared _ isField)
    | underlying => exact absurd isUse (by decide)
    | param => exact absurd isUse (by decide)

end Library

namespace Sample

/-- A library with a struct that has a field of a type, and a function that returns nothing. -/
def recording (type : TypeRef) : Library :=
  { Library.empty with
    functions := [⟨"Reset", .named "void", [], none⟩]
    structs := [⟨"Slot", [⟨"content", type, none⟩]⟩] }

/-- With a field of numbers, `void` is only what the function returns. -/
theorem recording_numbers_confined :
    (recording (.array (.named "int") none)).Accepted ∧
      (recording (.array (.named "int") none)).VoidOnly [.returned] ∧
      (recording (.array (.named "int") none)).Writes .returned (.named "void") := by
  have accepted : (recording (.array (.named "int") none)).Accepted := by cbv
  have noField : ∀ record ∈ (recording (.array (.named "int") none)).structs ++
      (recording (.array (.named "int") none)).classes, ∀ field ∈ record.fields,
        field.type ≠ .named "void" := by decide
  exact ⟨accepted, (Library.void_confined accepted).2.mpr noField,
    @Library.Writes.returned _ ⟨"Reset", .named "void", [], none⟩ (by decide)⟩

/-- The check accepts a struct with a field of the type `void`. -/
theorem recording_nothing_not_confined :
    (recording (.named "void")).Accepted ∧
      (recording (.named "void")).Writes .field (.named "void") ∧
      ¬ (recording (.named "void")).VoidOnly [.returned] := by
  have accepted : (recording (.named "void")).Accepted := by cbv
  have written : (recording (.named "void")).Writes .field (.named "void") :=
    @Library.Writes.field _ ⟨"Slot", [⟨"content", .named "void", none⟩]⟩
      ⟨"content", .named "void", none⟩ (by decide) (by decide)
  exact ⟨accepted, written, fun only => absurd (only _ _ _ written .whole).2 (by decide)⟩

end Sample

end InteropGlue
