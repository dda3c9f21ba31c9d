import InteropGlue.Library.Check
/-!
# The rules of the check

Every problem breaks one rule, and every pass over a library looks after a few rules. What a report
says about a rule is therefore the work of the passes that look after it: the other passes report
nothing of the kind, whatever they find.

## Main Definitions

* `Rule`, `Problem.rule` — the rules, and the one that a problem breaks.
* `RecordSort.rules` — the rules for structs and for classes.
* `ReportsOn` — defects that break certain rules and no others.

## Main Results

* `ReportsOn.filter_eq_nil` — defects that break other rules say nothing about a rule.
* `Library.reportsOn_functionDefects`, `Library.reportsOn_eventDefects` and those before them — the
  rules that each pass looks after.
-/

namespace InteropGlue

/-- What the declarations of a library have to keep to. -/
inductive Rule
  /-- Every name is declared once. -/
  | names
  /-- The values of enums are integers. -/
  | underlying
  /-- Names mean something, and arrays have elements. -/
  | references
  /-- Parameters are values. -/
  | parameters
  /-- What converts has its key. -/
  | machine
  /-- Counts of elements are integers of the same record. -/
  | counts
  /-- Structs have a finite layout. -/
  | containment
  /-- Functions take and give arrays as they are. -/
  | arrays
  /-- Other parameters of functions have a conversion for their direction. -/
  | directions
  /-- Callbacks take what can be forwarded. -/
  | callbacks
  deriving DecidableEq, Repr

/-- The rule that a problem breaks. -/
def Problem.rule : Problem → Rule
  | .repeated => .names
  | .underlyingNotInteger _ => .underlying
  | .arrayOfVoid | .unresolved _ => .references
  | .voidParam => .parameters
  | .machineMissing | .machineNotInt _ => .machine
  | .countMissing _ | .countNotInteger _ => .counts
  | .containsItself => .containment
  | .convertedArrayReturn | .boolArrayReturn | .convertedArrayParam | .boolArrayParam => .arrays
  | .writtenBool | .bufferedValue => .directions
  | .writtenCallbackParam | .compositeCallbackParam => .callbacks

/-- The rules for a record of a sort. Only structs have a layout. -/
def RecordSort.rules : RecordSort → List Rule
  | .structSort => [.references, .counts, .containment]
  | .classSort => [.references, .counts]

/-- All defects of a list break one of the given rules. -/
def ReportsOn (rules : List Rule) (defects : List Defect) : Prop :=
  ∀ defect ∈ defects, defect.problem.rule ∈ rules

section

variable {rules more : List Rule} {defects others : List Defect}

theorem reportsOn_nil : ReportsOn rules [] := by simp [ReportsOn]

theorem ReportsOn.mono (reports : ReportsOn rules defects) (subset : rules ⊆ more) :
    ReportsOn more defects :=
  fun defect member => subset (reports defect member)

theorem reportsOn_append :
    ReportsOn rules (defects ++ others) ↔ ReportsOn rules defects ∧ ReportsOn rules others :=
  List.forall_mem_append

theorem reportsOn_flatMap {α : Type} {pass : α → List Defect} {declared : List α} :
    ReportsOn rules (declared.flatMap pass) ↔ ∀ a ∈ declared, ReportsOn rules (pass a) := by
  simp only [ReportsOn, List.mem_flatMap]
  grind

theorem reportsOn_map {α : Type} {place : α → Place} {problem : α → Problem} {found : List α}
    (breaks : ∀ a ∈ found, (problem a).rule ∈ rules) :
    ReportsOn rules (found.map fun a => ⟨place a, problem a⟩) := by
  simpa [ReportsOn] using breaks

theorem reportsOn_single {place : Place} {problem : Problem} (breaks : problem.rule ∈ rules) :
    ReportsOn rules [⟨place, problem⟩] := by
  simpa [ReportsOn] using breaks

theorem reportsOn_defectIf {place : Place} {condition : Bool} {problem : Problem}
    (breaks : problem.rule ∈ rules) : ReportsOn rules (place.defectIf condition problem) := by
  cases condition with
  | true => exact reportsOn_single breaks
  | false => exact reportsOn_nil

/-- Defects that break other rules say nothing about a rule. -/
theorem ReportsOn.filter_eq_nil (reports : ReportsOn rules defects) {rule : Rule}
    (other : rule ∉ rules) : defects.filter (·.problem.rule = rule) = [] := by
  rw [List.filter_eq_nil_iff]
  intro defect member breaks
  exact other (of_decide_eq_true breaks ▸ reports defect member)

/-- Of defects that all break a rule, all say something about it. -/
theorem ReportsOn.filter_eq_self {rule : Rule} (reports : ReportsOn [rule] defects) :
    defects.filter (·.problem.rule = rule) = defects := by
  rw [List.filter_eq_self]
  intro defect member
  exact decide_eq_true (List.mem_singleton.mp (reports defect member))

end

namespace Library

variable {lib : Library}

/-! ### The rules of each pass -/

theorem reportsOn_nameDefects : ReportsOn [.names] lib.nameDefects :=
  reportsOn_append.mpr ⟨reportsOn_map fun _ _ => .head _, reportsOn_map fun _ _ => .head _⟩

theorem reportsOn_enumDefects (enum : Enum) : ReportsOn [.underlying] (enumDefects enum) :=
  reportsOn_defectIf (.head _)

theorem reportsOn_referenceDefects (place : Place) (type : TypeRef) :
    ReportsOn [.references] (lib.referenceDefects place type) := by
  induction type with
  | named name => exact reportsOn_defectIf (.head _)
  | array element count ih =>
    exact reportsOn_append.mpr ⟨reportsOn_defectIf (.head _), ih⟩

theorem reportsOn_countDefects (place : Place) (record : Record) (field : Field) :
    ReportsOn [.counts] (countDefects place record field) := by
  rw [countDefects]
  split
  · exact reportsOn_nil
  · split
    · exact reportsOn_single (.head _)
    · exact reportsOn_defectIf (.head _)

theorem reportsOn_recordDefects (sort : RecordSort) (record : Record) :
    ReportsOn sort.rules (lib.recordDefects sort record) := by
  rw [recordDefects, reportsOn_flatMap]
  intro field _
  rw [fieldDefects, reportsOn_append, reportsOn_append]
  refine ⟨⟨?_, ?_⟩, ?_⟩
  · exact (reportsOn_referenceDefects _ _).mono (by cases sort <;> simp [RecordSort.rules])
  · exact (reportsOn_countDefects _ _ _).mono (by cases sort <;> simp [RecordSort.rules])
  · cases sort with
    | structSort => exact reportsOn_defectIf (by simp [Problem.rule, RecordSort.rules])
    | classSort => exact reportsOn_nil

theorem reportsOn_machineDefects (owner : Callable) (f : Function) :
    ReportsOn [.machine] (lib.machineDefects owner f) := by
  rw [machineDefects]
  split
  · split
    · exact reportsOn_single (.head _)
    · exact reportsOn_defectIf (.head _)
  · exact reportsOn_nil

theorem reportsOn_signatureDefects (owner : Callable) (f : Function) :
    ReportsOn [.references, .parameters, .machine] (lib.signatureDefects owner f) := by
  rw [signatureDefects, reportsOn_append, reportsOn_append, reportsOn_flatMap]
  refine ⟨⟨(reportsOn_referenceDefects _ _).mono (by simp), fun p _ => ?_⟩, ?_⟩
  · rw [reportsOn_append]
    refine ⟨(reportsOn_referenceDefects _ _).mono (by simp), ?_⟩
    exact reportsOn_defectIf (by simp [Problem.rule])
  · exact (reportsOn_machineDefects _ _).mono (by simp)

/-! ### Shapes without a conversion -/

theorem rule_unsupportedReturn? {type : TypeRef} {problem : Problem}
    (unsupported : lib.unsupportedReturn? type = some problem) : problem.rule = .arrays := by
  rw [unsupportedReturn?] at unsupported
  grind [Problem.rule]

theorem rule_unsupportedParam? {p : Param} {problem : Problem}
    (unsupported : lib.unsupportedParam? p = some problem) :
    problem.rule = if lib.kindOf p.type = .array then .arrays else .directions := by
  rw [unsupportedParam?] at unsupported
  grind [Problem.rule]

theorem rule_unsupportedCallbackParam? {p : Param} {problem : Problem}
    (unsupported : lib.unsupportedCallbackParam? p = some problem) : problem.rule = .callbacks := by
  rw [unsupportedCallbackParam?] at unsupported
  grind [Problem.rule]

theorem reportsOn_functionDefects (f : Function) :
    ReportsOn [.references, .parameters, .machine, .arrays, .directions]
      (lib.functionDefects f) := by
  rw [functionDefects, reportsOn_append, reportsOn_append, reportsOn_flatMap]
  refine ⟨⟨(reportsOn_signatureDefects _ _).mono (by simp), ?_⟩, fun p _ => ?_⟩
  · refine reportsOn_map fun problem unsupported => ?_
    simp [rule_unsupportedReturn? (Option.mem_toList.mp unsupported)]
  · refine reportsOn_map fun problem unsupported => ?_
    rw [rule_unsupportedParam? (Option.mem_toList.mp unsupported)]
    split <;> simp

theorem reportsOn_eventDefects (event : Event) :
    ReportsOn [.references, .parameters, .machine, .callbacks] (lib.eventDefects event) := by
  rw [eventDefects, reportsOn_append, reportsOn_flatMap]
  refine ⟨(reportsOn_signatureDefects _ _).mono (by simp), fun p _ => ?_⟩
  refine reportsOn_map fun problem unsupported => ?_
  simp [rule_unsupportedCallbackParam? (Option.mem_toList.mp unsupported)]

end Library

end InteropGlue
