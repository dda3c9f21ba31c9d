import InteropGlue.Proofs.Library.Containment
import InteropGlue.Proofs.Library.Rules
/-!
# The report of contained structs

The check of a library says of some fields that their struct contains itself. These are the fields
from which a chain of structs leads back to the struct, each of them once, in order, and no others.
For this it is enough that no other rule reports the same problem, since the rules write one list
after the other.

## Main Definitions

* `Library.Elsewhere` — defects of which none says that a struct contains itself.

## Main Results

* `Library.filter_recordDefects` — what the defects of a struct say of its containing itself.
* `Library.containment_exact` — what the search finds, and what the report says of it.
-/

namespace InteropGlue.Library

variable {lib : Library}

/-! ### Defects of other kinds -/

/-- None of the defects says of a struct that it holds itself. -/
def Elsewhere (defects : List Defect) : Prop :=
  ∀ defect ∈ defects, defect.problem ≠ .containsItself

theorem elsewhere_flatMap {α : Type} {pass : α → List Defect} {declared : List α} :
    Elsewhere (declared.flatMap pass) ↔ ∀ a ∈ declared, Elsewhere (pass a) := by
  simp only [Elsewhere, List.mem_flatMap]
  grind

/-- Defects that break other rules than that of containment. -/
theorem elsewhere_of_rules {rules : List Rule} {defects : List Defect}
    (reports : ReportsOn rules defects) (other : .containment ∉ rules) : Elsewhere defects := by
  intro defect member contains
  have breaks := reports defect member
  rw [contains] at breaks
  exact other breaks

theorem elsewhere_nameDefects : Elsewhere lib.nameDefects :=
  elsewhere_of_rules reportsOn_nameDefects (by simp)

theorem elsewhere_enumDefects (enum : Enum) : Elsewhere (enumDefects enum) :=
  elsewhere_of_rules (reportsOn_enumDefects enum) (by simp)

theorem elsewhere_functionDefects (f : Function) : Elsewhere (lib.functionDefects f) :=
  elsewhere_of_rules (reportsOn_functionDefects f) (by simp)

theorem elsewhere_eventDefects (event : Event) : Elsewhere (lib.eventDefects event) :=
  elsewhere_of_rules (reportsOn_eventDefects event) (by simp)

theorem elsewhere_recordDefects_class (record : Record) :
    Elsewhere (lib.recordDefects .classSort record) :=
  elsewhere_of_rules (reportsOn_recordDefects .classSort record) (by simp [RecordSort.rules])

/-! ### Fields from which a chain leads back -/

theorem Elsewhere.filter_eq_nil {defects : List Defect} (elsewhere : Elsewhere defects) :
    defects.filter (·.problem = .containsItself) = [] := by
  rw [List.filter_eq_nil_iff]
  simpa [Elsewhere] using elsewhere

theorem filter_fieldDefects (struct : Record) (field : Field) :
    (lib.fieldDefects .structSort struct field).filter (·.problem = .containsItself) =
      if lib.Embeds field.type struct.name then
        [⟨.field field.name .structSort struct.name, .containsItself⟩]
      else [] := by
  have found : lib.containsByValue field.type struct.name = true ↔
      lib.Embeds field.type struct.name := containsByValue_iff_embeds _ _
  have references := elsewhere_of_rules
    (@reportsOn_referenceDefects lib (.field field.name .structSort struct.name) field.type)
    (by simp)
  have counts := elsewhere_of_rules
    (reportsOn_countDefects (.field field.name .structSort struct.name) struct field) (by simp)
  rw [fieldDefects, List.filter_append, List.filter_append, references.filter_eq_nil,
    counts.filter_eq_nil]
  cases contains : lib.containsByValue field.type struct.name with
  | true => simp [Place.defectIf, found.mp contains]
  | false =>
    have apart : ¬ lib.Embeds field.type struct.name := by simp [← found, contains]
    simp [Place.defectIf, apart]

theorem filter_recordDefects (struct : Record) :
    (lib.recordDefects .structSort struct).filter (·.problem = .containsItself) =
      (struct.fields.filter fun field => lib.Embeds field.type struct.name).map fun field =>
        ⟨.field field.name .structSort struct.name, .containsItself⟩ := by
  rw [recordDefects, List.filter_flatMap]
  induction struct.fields with
  | nil => rfl
  | cons field fields ih =>
    rw [List.flatMap_cons, ih, filter_fieldDefects, List.filter_cons]
    split <;> simp_all

/-- The search finds a struct in a type exactly when a chain of structs leads from the type to its
name. So the report says of the fields from which a chain leads back that their struct contains
itself, once of each, in order, and of no other field. -/
theorem containment_exact (lib : Library) :
    (∀ type target, lib.containsByValue type target = true ↔ lib.Embeds type target) ∧
      lib.defects.filter (·.problem = .containsItself) =
        lib.structs.flatMap fun struct =>
          (struct.fields.filter fun field => lib.Embeds field.type struct.name).map fun field =>
            ⟨.field field.name .structSort struct.name, .containsItself⟩ := by
  refine ⟨containsByValue_iff_embeds, ?_⟩
  have enums : Elsewhere (lib.enums.flatMap enumDefects) :=
    elsewhere_flatMap.mpr fun enum _ => elsewhere_enumDefects enum
  have classes : Elsewhere (lib.classes.flatMap (lib.recordDefects .classSort)) :=
    elsewhere_flatMap.mpr fun record _ => elsewhere_recordDefects_class record
  have functions : Elsewhere (lib.functions.flatMap lib.functionDefects) :=
    elsewhere_flatMap.mpr fun f _ => elsewhere_functionDefects f
  have events : Elsewhere (lib.events.flatMap lib.eventDefects) :=
    elsewhere_flatMap.mpr fun event _ => elsewhere_eventDefects event
  simp only [defects, List.filter_append, elsewhere_nameDefects.filter_eq_nil,
    enums.filter_eq_nil, classes.filter_eq_nil, functions.filter_eq_nil, events.filter_eq_nil,
    List.append_nil, List.nil_append, List.filter_flatMap, filter_recordDefects]

end InteropGlue.Library
