import InteropGlue.Proofs.Glue.ApplicationSurface
import InteropGlue.Proofs.Glue.FunctionTyping
import InteropGlue.Proofs.Library.Rules
/-!
# Values that cross as they are

Three recursions over a type say how its values cross between the surfaces: the spelling says what
they are on either side, and two tests say what there is to convert, handles and records by the one
and booleans by the other. They describe the same types. Where both tests say no the spellings are
equal, and a name with a conversion is never spelled as it is.

Arrays make this matter. A function has no conversion for an array: it passes the parameter by its
name and returns the result by its name, which is typed only where both surfaces spell the array
alike. The check asks the two tests and stops these arrays, no more and no fewer.

## Main Definitions

* `Library.SpelledAlike` — a type with one spelling for both surfaces of a target.
* `Passage`, `Function.passages` — the places of a function where values cross, with what the check
  says of an array there.

## Main Results

* `Library.spelledAlike_iff` — the spellings agree with the two tests.
* `Library.filter_functionDefects` — what the check says of the arrays of a function.
* `Library.callArgument_array_fits_iff`, `Library.returnSteps_array_typed_iff` — when an array is
  passed or returned with its type.
* `Library.unconverted_values_exact` — all of these for a whole library.
-/

namespace InteropGlue

open CSharp

namespace Library

variable {lib : Library} {target : Target} {type : TypeRef}

/-! ### Spellings -/

/-- Both surfaces of a target spell a type alike, so its values cross as they are. -/
def SpelledAlike (lib : Library) (target : Target) (type : TypeRef) : Prop :=
  lib.typeName (.native target) type = lib.typeName (.application target) type

instance : Decidable (lib.SpelledAlike target type) :=
  inferInstanceAs
    (Decidable (lib.typeName (.native target) type = lib.typeName (.application target) type))

/-- Array levels make no difference. -/
@[simp] theorem spelledAlike_array {count : Option String} :
    lib.SpelledAlike target (.array type count) ↔ lib.SpelledAlike target type := by
  rw [SpelledAlike, typeName_array, typeName_array, String.append_left_inj, SpelledAlike]

/-- A record has another name natively. -/
theorem append_recordSuffix_ne (target : Target) (name : String) :
    name ++ target.recordSuffix ≠ name := by
  intro same
  have longer := congrArg String.length same
  rw [String.length_append] at longer
  cases target <;> simp [Target.recordSuffix] at longer

/-- A name with a conversion is spelled in two ways. -/
theorem plainArray_of_spelledAlike_named {name : String}
    (alike : lib.SpelledAlike target (.named name)) : lib.PlainArray (.named name) := by
  rw [SpelledAlike, typeName_application_named] at alike
  rw [PlainArray, Converted, TypeRef.innermost]
  refine ⟨?_, ?_⟩
  · rintro (handle | record)
    · obtain rfl := kindOfName_eq_handle_iff.mp handle
      rw [typeName_native_handle target handle] at alike
      exact absurd alike (by cases target <;> decide)
    · rw [typeName_native_record target record] at alike
      exact append_recordSuffix_ne target name alike
  · rintro rfl
    rw [typeName_native_bool] at alike
    exact absurd alike (by decide)

/-- The types that both surfaces spell alike are those without handles, records and booleans. -/
theorem spelledAlike_iff_plainArray : lib.SpelledAlike target type ↔ lib.PlainArray type := by
  refine ⟨fun alike => ?_, fun plain => typeName_eq_of_plain plain _ _⟩
  induction type with
  | named name => exact plainArray_of_spelledAlike_named alike
  | array element count ih => exact ih (spelledAlike_array.mp alike)

/-- The spellings of a type are equal exactly if neither test finds something to convert. -/
theorem spelledAlike_iff :
    lib.SpelledAlike target type ↔
      lib.needsConversion type = false ∧ type.containsBool = false :=
  spelledAlike_iff_plainArray.trans plainArray_iff

/-- No type is found by both tests. -/
theorem needsConversion_eq_false_of_containsBool (holdsBool : type.containsBool = true) :
    lib.needsConversion type = false := by
  have isBool : lib.kindOfName type.innermost = .bool :=
    kindOfName_eq_bool_iff.mpr (TypeRef.containsBool_iff.mp holdsBool)
  rw [← Bool.not_eq_true, needsConversion_iff, Converted, isBool]
  simp

end Library

/-! ### What the check says of arrays -/

/-- A place of a signature where values of a type cross, with what is wrong if they are arrays that
hold handles or records, or arrays that hold booleans. -/
structure Passage where
  place : Place
  type : TypeRef
  ofConverted : Problem
  ofBool : Problem

/-- What is wrong with an array that cannot cross. -/
def Passage.defect (passage : Passage) : Defect :=
  ⟨passage.place, if passage.type.containsBool then passage.ofBool else passage.ofConverted⟩

/-- The places of a function where values cross: the result and the parameters. -/
def Function.passages (f : Function) : List Passage :=
  ⟨.returnType f.owner, f.returnType, .convertedArrayReturn, .boolArrayReturn⟩ ::
    f.params.map fun p =>
      ⟨.param p.name f.owner, p.type, .convertedArrayParam, .boolArrayParam⟩

namespace Library

variable {lib : Library} {target : Target} {type : TypeRef} {f : Function} {p : Param}

/-- An array that the surfaces of a target spell in two ways. -/
def SplitArray (lib : Library) (target : Target) (type : TypeRef) : Prop :=
  lib.kindOf type = .array ∧ ¬ lib.SpelledAlike target type

instance : Decidable (lib.SplitArray target type) :=
  inferInstanceAs (Decidable (lib.kindOf type = .array ∧ ¬ lib.SpelledAlike target type))

/-- The two tests of an array stop it exactly if the surfaces spell it in two ways, and tell what it
holds. -/
theorem stopped_eq (target : Target) (isArray : lib.kindOf type = .array)
    (ofConverted ofBool : Problem) :
    (if lib.needsConversion type then some ofConverted
      else if type.containsBool then some ofBool
      else none) =
      if lib.SplitArray target type then
        some (if type.containsBool then ofBool else ofConverted)
      else none := by
  have alike := @spelledAlike_iff lib target type
  -- The first test hides no boolean, since it finds nothing in a type that holds one.
  cases holdsBool : type.containsBool with
  | true =>
    have notConverted := @needsConversion_eq_false_of_containsBool lib type holdsBool
    simp [SplitArray, isArray, alike, holdsBool, notConverted]
  | false => cases converts : lib.needsConversion type <;> simp [SplitArray, *]

/-- What the check says of an array that a function returns. -/
theorem unsupportedReturn?_eq (target : Target) (type : TypeRef) :
    lib.unsupportedReturn? type =
      if lib.SplitArray target type then
        some (if type.containsBool then .boolArrayReturn else .convertedArrayReturn)
      else none := by
  cases kind : lib.kindOf type with
  | array => rw [← stopped_eq target kind, unsupportedReturn?, kind]
  | _ => simp [unsupportedReturn?, SplitArray, kind]

/-- What the check says of an array that a function takes. -/
theorem unsupportedParam?_of_array (target : Target) (isArray : lib.kindOf p.type = .array) :
    lib.unsupportedParam? p =
      if lib.SplitArray target p.type then
        some (if p.type.containsBool then .boolArrayParam else .convertedArrayParam)
      else none := by
  rw [← stopped_eq target isArray, unsupportedParam?, isArray]

/-- An array is exempt from the check exactly if the surfaces spell it alike. -/
theorem unsupportedReturn?_array_eq_none_iff (target : Target)
    (isArray : lib.kindOf type = .array) :
    lib.unsupportedReturn? type = none ↔ lib.SpelledAlike target type := by
  rw [unsupportedReturn?_eq target type]
  simp [SplitArray, isArray]

theorem unsupportedParam?_array_eq_none_iff (target : Target)
    (isArray : lib.kindOf p.type = .array) :
    lib.unsupportedParam? p = none ↔ lib.SpelledAlike target p.type := by
  rw [unsupportedParam?_of_array target isArray]
  simp [SplitArray, isArray]

theorem filter_returnDefects (target : Target) (place : Place) (type : TypeRef) :
    ((lib.unsupportedReturn? type).toList.map fun problem => (⟨place, problem⟩ : Defect)).filter
        (·.problem.rule = .arrays) =
      if lib.SplitArray target type then
        [Passage.defect ⟨place, type, .convertedArrayReturn, .boolArrayReturn⟩]
      else [] := by
  have breaks : ReportsOn [.arrays] ((lib.unsupportedReturn? type).toList.map fun problem =>
      (⟨place, problem⟩ : Defect)) :=
    reportsOn_map fun problem unsupported =>
      List.mem_singleton.mpr (rule_unsupportedReturn? (Option.mem_toList.mp unsupported))
  rw [breaks.filter_eq_self, unsupportedReturn?_eq target type]
  split <;> rfl

theorem filter_paramDefects (target : Target) (place : Place) (p : Param) :
    ((lib.unsupportedParam? p).toList.map fun problem => (⟨place, problem⟩ : Defect)).filter
        (·.problem.rule = .arrays) =
      if lib.SplitArray target p.type then
        [Passage.defect ⟨place, p.type, .convertedArrayParam, .boolArrayParam⟩]
      else [] := by
  have breaks : ReportsOn [if lib.kindOf p.type = .array then .arrays else .directions]
      ((lib.unsupportedParam? p).toList.map fun problem => (⟨place, problem⟩ : Defect)) :=
    reportsOn_map fun problem unsupported =>
      List.mem_singleton.mpr (rule_unsupportedParam? (Option.mem_toList.mp unsupported))
  by_cases isArray : lib.kindOf p.type = .array
  · rw [if_pos isArray] at breaks
    rw [breaks.filter_eq_self, unsupportedParam?_of_array target isArray]
    split <;> rfl
  -- The other shapes that the check stops are no arrays and break another rule.
  · rw [if_neg isArray] at breaks
    rw [breaks.filter_eq_nil (by simp), if_neg fun split => isArray split.1]

/-- What the check says of the arrays of a function: of each that the surfaces spell in two ways,
once, in order. -/
theorem filter_functionDefects (target : Target) (f : Function) :
    (lib.functionDefects f).filter (·.problem.rule = .arrays) =
      (f.passages.filter fun passage => lib.SplitArray target passage.type).map Passage.defect := by
  rw [functionDefects, List.filter_append, List.filter_append,
    (reportsOn_signatureDefects _ _).filter_eq_nil (by simp), List.nil_append,
    filter_returnDefects target, List.filter_flatMap, Function.passages, filter_eq_flatMap,
    List.map_flatMap, List.flatMap_cons, List.flatMap_map]
  simp only [filter_paramDefects target, apply_ite (List.map Passage.defect), List.map_cons,
    List.map_nil, decide_eq_true_eq]

/-- What the check says of the arrays of a library. The passes over types and events say nothing of
them. -/
theorem filter_defects_arrays (lib : Library) (target : Target) :
    lib.defects.filter (·.problem.rule = .arrays) =
      lib.functions.flatMap fun f =>
        (f.passages.filter fun passage => lib.SplitArray target passage.type).map
          Passage.defect := by
  have names : lib.nameDefects.filter (·.problem.rule = .arrays) = [] :=
    reportsOn_nameDefects.filter_eq_nil (by simp)
  have enums : (lib.enums.flatMap enumDefects).filter (·.problem.rule = .arrays) = [] :=
    (reportsOn_flatMap.mpr fun enum _ => reportsOn_enumDefects enum).filter_eq_nil (by simp)
  have records (sort : RecordSort) (declared : List Record) :
      (declared.flatMap (lib.recordDefects sort)).filter (·.problem.rule = .arrays) = [] :=
    (reportsOn_flatMap.mpr fun record _ => reportsOn_recordDefects sort record).filter_eq_nil
      (by cases sort <;> simp [RecordSort.rules])
  have events : (lib.events.flatMap lib.eventDefects).filter (·.problem.rule = .arrays) = [] :=
    (reportsOn_flatMap.mpr fun event _ => reportsOn_eventDefects event).filter_eq_nil (by simp)
  simp only [defects, List.filter_append, names, enums, records, events, List.append_nil,
    List.nil_append, List.filter_flatMap, filter_functionDefects target]

/-! ### Arrays in the code of a function -/

variable {names : ClassNames} {scope : Scope}

/-- An array is passed by its name. That fits the native parameter exactly if the surfaces spell the
array alike. -/
theorem callArgument_array_fits_iff (isArray : lib.kindOf p.type = .array)
    (bound : scope.Binds p.name (lib.typeName (.application target) p.type)) :
    Fits (lib.surroundings names target) scope [lib.callArgument p]
        [lib.parameter (.native target) p] ↔ lib.SpelledAlike target p.type := by
  have argument : lib.callArgument p = .pass p.direction.passing (.name p.name) := by
    rw [callArgument, isArray]
  rw [argument, fits_single_iff, hasType_name_iff, bound, SpelledAlike]
  exact and_iff_right rfl

/-- An array is returned by the name of the result. That has the type of the override exactly if the
surfaces spell the array alike. -/
theorem returnSteps_array_typed_iff (isArray : lib.kindOf f.returnType = .array)
    (bound : scope.Binds resultName (lib.typeName (.native target) f.returnType)) :
    BodyTyped (lib.surroundings names target) (lib.typeName (.application target) f.returnType)
        scope (lib.returnSteps f) ↔ lib.SpelledAlike target f.returnType := by
  have steps : lib.returnSteps f = [.leave (some (.name resultName))] := by
    rw [returnSteps, isArray]
  have notVoid : f.returnType ≠ .named "void" := by
    intro isVoid
    rw [kindOf_eq_void_iff.mpr isVoid] at isArray
    exact absurd isArray (by simp)
  rw [steps, bodyTyped_leave_iff, hasType_name_iff, bound, SpelledAlike, eq_comm]
  exact and_iff_right (typeName_ne_void _ notVoid)

/-- The surfaces of a target spell a type alike exactly if neither test finds something to convert,
and the application surface spells it alike for all targets. The check stops the arrays that are
spelled in two ways, once at each place where a function takes or gives one, in order. It exempts
exactly those that a function can pass and return by their names. -/
theorem unconverted_values_exact (lib : Library) (target : Target) :
    (∀ type, lib.SpelledAlike target type ↔
      lib.needsConversion type = false ∧ type.containsBool = false) ∧
    (∀ type other,
      lib.typeName (.application target) type = lib.typeName (.application other) type) ∧
    (lib.defects.filter (·.problem.rule = .arrays) =
      lib.functions.flatMap fun f =>
        (f.passages.filter fun passage => lib.SplitArray target passage.type).map
          Passage.defect) ∧
    ∀ (names : ClassNames) (scope : Scope),
      (∀ p : Param, lib.kindOf p.type = .array →
        scope.Binds p.name (lib.typeName (.application target) p.type) →
        (Fits (lib.surroundings names target) scope [lib.callArgument p]
            [lib.parameter (.native target) p] ↔ lib.unsupportedParam? p = none)) ∧
      (∀ f : Function, lib.kindOf f.returnType = .array →
        scope.Binds resultName (lib.typeName (.native target) f.returnType) →
        (BodyTyped (lib.surroundings names target)
            (lib.typeName (.application target) f.returnType) scope (lib.returnSteps f) ↔
          lib.unsupportedReturn? f.returnType = none)) := by
  refine ⟨fun type => spelledAlike_iff, fun type other => typeName_target lib target other type,
    filter_defects_arrays lib target, fun names scope => ⟨?_, ?_⟩⟩
  · intro p isArray bound
    rw [callArgument_array_fits_iff isArray bound,
      unsupportedParam?_array_eq_none_iff target isArray]
  · intro f isArray bound
    rw [returnSteps_array_typed_iff isArray bound,
      unsupportedReturn?_array_eq_none_iff target isArray]

end Library

/-! ### A function with arrays of all sorts -/

namespace Sample

/-- An array of arrays of numbers, set by the caller and changed by the callee. -/
def cells : Param := ⟨"cells", .array (.array (.named "int") none) none, .byRef, none⟩

/-- An array of arrays of booleans. -/
def shown : Param := ⟨"shown", .array (.array (.named "bool") none) none, .input, none⟩

/-- An array of structs, filled by the callee. -/
def corners : Param := ⟨"corners", .array (.named "Point") none, .buffer, none⟩

/-- A function that takes the three arrays and returns an array of booleans. -/
def tabulate : Function :=
  { name := "Tabulate"
    returnType := .array (.named "bool") none
    params := [⟨"vmid", .named "int", .input, none⟩, cells, shown, corners]
    returnMarshal := none }

/-- A library with the function and the struct. -/
def tabulating : Library :=
  { Library.empty with functions := [tabulate], structs := [point] }

/-- The result of the native call and the parameters. -/
def tabulateScope : Scope :=
  (resultName, tabulating.typeName (.native .legacy) tabulate.returnType) ::
    tabulating.parameterScope .legacy tabulate

theorem tabulateScope_eq :
    tabulateScope =
      [("result", "BOOL[]"), ("vmid", "int"), ("cells", "int[][]"), ("shown", "bool[][]"),
        ("corners", "Point[]")] := by
  decide

/-- The surfaces spell the array of numbers alike: the check exempts it, and it fits the entry point
by its name. The others are spelled in two ways: the check stops them, the argument does not fit,
and the result does not have the type of the override. -/
theorem tabulating_arrays :
    tabulating.SpelledAlike .legacy cells.type ∧ ¬ tabulating.SpelledAlike .legacy shown.type ∧
      tabulating.defects.filter (·.problem.rule = .arrays) =
        [⟨.returnType (.function "Tabulate"), .boolArrayReturn⟩,
          ⟨.param "shown" (.function "Tabulate"), .boolArrayParam⟩,
          ⟨.param "corners" (.function "Tabulate"), .convertedArrayParam⟩] ∧
      tabulateScope.Binds "cells" "int[][]" ∧ tabulateScope.Binds "shown" "bool[][]" ∧
      tabulateScope.Binds "result" "BOOL[]" ∧
      Fits (tabulating.surroundings ⟨"Access"⟩ .legacy) tabulateScope
        [tabulating.callArgument cells] [tabulating.parameter (.native .legacy) cells] ∧
      ¬ Fits (tabulating.surroundings ⟨"Access"⟩ .legacy) tabulateScope
        [tabulating.callArgument shown] [tabulating.parameter (.native .legacy) shown] ∧
      ¬ BodyTyped (tabulating.surroundings ⟨"Access"⟩ .legacy) "bool[]" tabulateScope
        (tabulating.returnSteps tabulate) := by
  obtain ⟨alike, -, reported, crosses⟩ := Library.unconverted_values_exact tabulating .legacy
  obtain ⟨fits, typed⟩ := crosses ⟨"Access"⟩ tabulateScope
  have cellsBound : tabulateScope.Binds "cells" "int[][]" := fun other => by
    simp [tabulateScope_eq]
  have shownBound : tabulateScope.Binds "shown" "bool[][]" := fun other => by
    simp [tabulateScope_eq]
  have resultBound : tabulateScope.Binds "result" "BOOL[]" := fun other => by
    simp [tabulateScope_eq]
  refine ⟨(alike _).mpr ⟨by decide, by decide⟩, fun same => ?_, reported.trans (by decide),
    cellsBound, shownBound, resultBound, (fits cells rfl cellsBound).mpr (by decide), ?_, ?_⟩
  · exact absurd ((alike _).mp same).2 (by decide)
  · exact fun fit => absurd ((fits shown rfl shownBound).mp fit) (by decide)
  · exact fun body => absurd ((typed tabulate rfl resultBound).mp body) (by decide)

end Sample

end InteropGlue
