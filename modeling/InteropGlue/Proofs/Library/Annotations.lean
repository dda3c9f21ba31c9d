import InteropGlue.Library.Check
import Mathlib.Data.List.Basic
/-!
# Libraries without annotations

A marshaling annotation stands beside a type and never in it. What a name means, what a struct holds
and which defects a library has can be said of the library without its annotations.

## Main Definitions

* `Library.bare` — a library without annotations, and the same for the parts of one.

## Main Results

* `map_bare_eq`, `flatMap_bare_eq`, `map_bare_map` — what is made of parts without annotations.
* `Library.kindOfName_bare`, `Library.containsByValue_bare` — names and containment.
* `Library.defects_bare` — the check sees no annotation.

## Design Notes

Two libraries that differ in annotations only are two libraries with one `bare`. A statement about
both is proved of one library and its `bare`, by a lemma for each definition that the statement goes
through. Names are kept, so what is made of names alone needs no lemma.
-/

namespace InteropGlue

/-! ### Parts without annotations -/

/-- A parameter without its annotation. -/
def Param.bare (p : Param) : Param := { p with marshal := none }

/-- A signature without annotations. -/
def Function.bare (f : Function) : Function :=
  { f with params := f.params.map Param.bare, returnMarshal := none }

/-- An event without annotations. -/
def Event.bare (event : Event) : Event := { event with handler := event.handler.bare }

/-- A field without its annotation. -/
def Field.bare (field : Field) : Field := { field with marshal := none }

/-- A struct or class without annotations. -/
def Record.bare (record : Record) : Record := { record with fields := record.fields.map Field.bare }

/-- A library without annotations. -/
def Library.bare (lib : Library) : Library :=
  { lib with
    functions := lib.functions.map Function.bare
    events := lib.events.map Event.bare
    structs := lib.structs.map Record.bare
    classes := lib.classes.map Record.bare }

section Lists

variable {α β : Type} {bare : α → α} (values : List α)

/-- Parts of which each makes the same without annotations. -/
theorem map_bare_eq {made make : α → β} (each : ∀ value, made (bare value) = make value) :
    (values.map bare).map made = values.map make := by
  rw [List.map_map]
  exact List.map_congr_left fun value _ => each value

theorem flatMap_bare_eq {made make : α → List β} (each : ∀ value, made (bare value) = make value) :
    (values.map bare).flatMap made = values.flatMap make := by
  rw [List.flatMap_map]
  exact List.flatMap_congr fun value _ => each value

/-- Parts of which each makes something changed without annotations. -/
theorem map_bare_map {made make : α → β} {change : β → β}
    (each : ∀ value, made (bare value) = change (make value)) :
    (values.map bare).map made = (values.map make).map change :=
  (map_bare_eq values each).trans List.map_map.symm

end Lists

theorem Function.machineParam?_bare (f : Function) :
    f.bare.machineParam? = f.machineParam?.map Param.bare := List.find?_map

theorem Record.field?_bare (record : Record) (name : String) :
    record.bare.field? name = (record.field? name).map Field.bare := List.find?_map

namespace Library

variable (lib : Library)

theorem functions_bare : lib.bare.functions = lib.functions.map Function.bare := rfl

theorem events_bare : lib.bare.events = lib.events.map Event.bare := rfl

theorem structs_bare : lib.bare.structs = lib.structs.map Record.bare := rfl

theorem classes_bare : lib.bare.classes = lib.classes.map Record.bare := rfl

/-! ### Names -/

theorem struct?_bare (name : String) : lib.bare.struct? name = (lib.struct? name).map Record.bare :=
  List.find?_map

theorem class?_bare (name : String) : lib.bare.class? name = (lib.class? name).map Record.bare :=
  List.find?_map

/-- A name means the same without annotations. -/
@[simp] theorem kindOfName_bare (name : String) :
    lib.bare.kindOfName name = lib.kindOfName name := by
  rw [kindOfName, kindOfName, struct?_bare, class?_bare, Option.isSome_map, Option.isSome_map]
  rfl

@[simp] theorem kindOf_bare (type : TypeRef) : lib.bare.kindOf type = lib.kindOf type := by
  cases type with
  | named name => exact lib.kindOfName_bare name
  | array element count => rfl

@[simp] theorem needsConversion_bare (type : TypeRef) :
    lib.bare.needsConversion type = lib.needsConversion type := by
  induction type with
  | named name => rw [needsConversion, needsConversion, kindOfName_bare]
  | array element count ih => exact ih

theorem typeNames_bare : lib.bare.typeNames = lib.typeNames := by
  simp only [typeNames, structs_bare, classes_bare, List.map_map]
  rfl

theorem entryPointNames_bare : lib.bare.entryPointNames = lib.entryPointNames := by
  simp only [entryPointNames, functions_bare, events_bare, List.map_map]
  rfl

/-! ### Containment -/

theorem structOf?_bare (type : TypeRef) :
    lib.bare.structOf? type = (lib.structOf? type).map Record.bare := by
  rw [structOf?, structOf?, Option.map_bind]
  exact congrArg _ (funext lib.struct?_bare)

/-- A search goes by names and by the types of fields, so it is the same without annotations. -/
theorem reaches_bare (lib : Library) (target : String) :
    (∀ visited type, lib.bare.reaches target visited type = lib.reaches target visited type) ∧
      ∀ visited types,
        lib.bare.reachesAny target visited types = lib.reachesAny target visited types := by
  have isBare {type : TypeRef} {record : Record} (isStruct : lib.structOf? type = some record) :
      lib.bare.structOf? type = some record.bare := by
    rw [structOf?_bare, isStruct, Option.map_some]
  apply reaches.mutual_induct lib target
  case case1 =>
    intro visited type noStruct
    have noBare : lib.bare.structOf? type = none := by
      rw [structOf?_bare, noStruct, Option.map_none]
    rw [reaches_of_none noStruct, reaches_of_none noBare]
  case case2 =>
    intro visited type record isStruct isTarget
    rw [reaches_of_some isStruct, reaches_of_some (isBare isStruct), if_pos isTarget]
    exact if_pos isTarget
  case case3 =>
    intro visited type record isStruct notTarget isVisited
    rw [reaches_of_some isStruct, reaches_of_some (isBare isStruct), if_neg notTarget,
      if_pos isVisited]
    exact (if_neg notTarget).trans (if_pos isVisited)
  case case4 =>
    intro visited type record isStruct notTarget fresh inside
    have types : record.bare.fields.map (·.type) = record.fields.map (·.type) := by
      rw [Record.bare, List.map_map]
      rfl
    rw [reaches_of_some isStruct, reaches_of_some (isBare isStruct), types, ← inside]
    rfl
  case case5 =>
    intro visited
    rw [reachesAny, reachesAny]
  case case6 =>
    intro visited type types first isFound same
    rw [reachesAny, reachesAny, same]
    exact (if_pos isFound).trans (if_pos isFound).symm
  case case7 =>
    intro visited type types first notFound same rest
    rw [reachesAny, reachesAny, same, rest]

theorem containsByValue_bare (type : TypeRef) (name : String) :
    lib.bare.containsByValue type name = lib.containsByValue type name := by
  rw [containsByValue, containsByValue, (lib.reaches_bare name).1]

/-! ### Defects -/

theorem referenceDefects_bare (place : Place) (type : TypeRef) :
    lib.bare.referenceDefects place type = lib.referenceDefects place type := by
  induction type with
  | named name => rw [referenceDefects, referenceDefects, kindOfName_bare]
  | array element count ih => rw [referenceDefects, referenceDefects, ih]

theorem countDefects_bare (place : Place) (record : Record) (field : Field) :
    countDefects place record.bare field.bare = countDefects place record field := by
  have counted : field.bare.countField? = field.countField? := rfl
  rw [countDefects, countDefects, counted]
  cases field.countField? with
  | none => rfl
  | some count =>
    simp only [Record.field?_bare]
    cases record.field? count <;> rfl

theorem recordDefects_bare (sort : RecordSort) (record : Record) :
    lib.bare.recordDefects sort record.bare = lib.recordDefects sort record := by
  refine flatMap_bare_eq record.fields fun field => ?_
  rw [fieldDefects, fieldDefects, countDefects_bare]
  simp only [referenceDefects_bare, containsByValue_bare]
  rfl

theorem converts_bare (f : Function) : lib.bare.converts f.bare = lib.converts f := by
  rw [converts, converts, Function.bare, List.any_map]
  simp only [needsConversion_bare]
  rfl

theorem machineDefects_bare (owner : Callable) (f : Function) :
    lib.bare.machineDefects owner f.bare = lib.machineDefects owner f := by
  rw [machineDefects, machineDefects, converts_bare, Function.machineParam?_bare]
  cases f.machineParam? <;> rfl

theorem signatureDefects_bare (owner : Callable) (f : Function) :
    lib.bare.signatureDefects owner f.bare = lib.signatureDefects owner f := by
  have params : f.bare.params.flatMap (fun p =>
      lib.bare.referenceDefects (.param p.name owner) p.type ++
        (Place.param p.name owner).defectIf p.type.isVoid .voidParam) =
      f.params.flatMap fun p =>
        lib.referenceDefects (.param p.name owner) p.type ++
          (Place.param p.name owner).defectIf p.type.isVoid .voidParam := by
    simp only [referenceDefects_bare]
    exact flatMap_bare_eq f.params fun _ => rfl
  rw [signatureDefects, signatureDefects, machineDefects_bare, params, referenceDefects_bare]
  rfl

theorem functionDefects_bare (f : Function) :
    lib.bare.functionDefects f.bare = lib.functionDefects f := by
  have returned : lib.bare.unsupportedReturn? f.bare.returnType =
      lib.unsupportedReturn? f.returnType := by
    rw [unsupportedReturn?, unsupportedReturn?, kindOf_bare, needsConversion_bare]
    rfl
  have param : ∀ p, lib.bare.unsupportedParam? (Param.bare p) = lib.unsupportedParam? p := by
    intro p
    rw [unsupportedParam?, unsupportedParam?, kindOf_bare, needsConversion_bare]
    rfl
  rw [functionDefects, functionDefects, signatureDefects_bare, returned, Function.bare,
    List.flatMap_map]
  simp only [param]
  rfl

theorem eventDefects_bare (event : Event) :
    lib.bare.eventDefects event.bare = lib.eventDefects event := by
  have param : ∀ p, lib.bare.unsupportedCallbackParam? (Param.bare p) =
      lib.unsupportedCallbackParam? p := by
    intro p
    rw [unsupportedCallbackParam?, unsupportedCallbackParam?, kindOf_bare]
    rfl
  rw [eventDefects, eventDefects, Event.bare, signatureDefects_bare, Function.bare,
    List.flatMap_map]
  simp only [param]
  rfl

/-- The check of a library sees no annotation. -/
theorem defects_bare : lib.bare.defects = lib.defects := by
  have names : lib.bare.nameDefects = lib.nameDefects := by
    rw [nameDefects, nameDefects, typeNames_bare, entryPointNames_bare]
  have structs : lib.bare.structs.flatMap (lib.bare.recordDefects .structSort) =
      lib.structs.flatMap (lib.recordDefects .structSort) :=
    flatMap_bare_eq lib.structs (lib.recordDefects_bare .structSort)
  have classes : lib.bare.classes.flatMap (lib.bare.recordDefects .classSort) =
      lib.classes.flatMap (lib.recordDefects .classSort) :=
    flatMap_bare_eq lib.classes (lib.recordDefects_bare .classSort)
  have functions : lib.bare.functions.flatMap lib.bare.functionDefects =
      lib.functions.flatMap lib.functionDefects :=
    flatMap_bare_eq lib.functions lib.functionDefects_bare
  have events : lib.bare.events.flatMap lib.bare.eventDefects =
      lib.events.flatMap lib.eventDefects :=
    flatMap_bare_eq lib.events lib.eventDefects_bare
  rw [defects, defects, names, structs, classes, functions, events]
  rfl

end Library

end InteropGlue
