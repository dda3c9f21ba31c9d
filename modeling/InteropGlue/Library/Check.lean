import InteropGlue.Library.Containment
import InteropGlue.Library.Defect
/-!
# Checking a library

All defects of a library, in the order of a report. A library without defects can be generated:
every name it uses is declared once, every shape has a conversion, and every conversion has its key.

## Main Definitions

* `repeated` — the names of a list that occur earlier in it.
* `Library.defects` — all defects of a library.
* `Library.Accepted` — the libraries without defects.

## Design Notes

Each rule is a function from the declaration it concerns to the defects found there. The order of
the report is the order in which these lists are joined: names, enums, structs, classes, functions
and events, each in declaration order.
-/

namespace InteropGlue

/-- The names that occur before, in `seen` or earlier in the list, once for each such occurrence. -/
def repeatedAfter (seen : List String) : List String → List String
  | [] => []
  | name :: rest =>
    if seen.contains name then name :: repeatedAfter seen rest
    else repeatedAfter (name :: seen) rest

/-- The names of a list that occur earlier in it. -/
def repeated (names : List String) : List String := repeatedAfter [] names

/-- The defect of a place, if the condition holds. -/
def Place.defectIf (place : Place) (condition : Bool) (problem : Problem) : List Defect :=
  if condition then [⟨place, problem⟩] else []

/-- The signature owner of a function. -/
def Function.owner (f : Function) : Callable := .function f.name

/-- The signature owner of an event. -/
def Event.owner (event : Event) : Callable := .event event.name

namespace Library

variable (lib : Library)

/-- Names that are declared more than once. -/
def nameDefects : List Defect :=
  (repeated lib.typeNames).map (fun name => ⟨.typeName name, .repeated⟩) ++
    (repeated lib.entryPointNames).map (fun name => ⟨.entryPoint name, .repeated⟩)

/-- An enum whose values are not integers. -/
def enumDefects (enum : Enum) : List Defect :=
  (Place.enumType enum.name).defectIf (!enum.underlying.isNamedAmong isIntegerPrimitive)
    (.underlyingNotInteger enum.underlying)

/-- Names without a meaning, and arrays of `void`, anywhere in a reference. -/
def referenceDefects (place : Place) : TypeRef → List Defect
  | .named name => place.defectIf (lib.kindOfName name == .unknown) (.unresolved name)
  | .array element _ => place.defectIf element.isVoid .arrayOfVoid ++ referenceDefects place element

/-- A count of elements that is not held by an integer field of the same record. -/
def countDefects (place : Place) (record : Record) (field : Field) : List Defect :=
  match field.countField? with
  | none => []
  | some count =>
    match record.field? count with
    | none => [⟨place, .countMissing count⟩]
    | some sibling =>
      place.defectIf (!sibling.type.isNamedAmong isIntegerPrimitive) (.countNotInteger count)

/-- The defects of a field. -/
def fieldDefects (sort : RecordSort) (record : Record) (field : Field) : List Defect :=
  let place := Place.field field.name sort record.name
  lib.referenceDefects place field.type ++ countDefects place record field ++
    place.defectIf (sort == .structSort && lib.containsByValue field.type record.name)
      .containsItself

/-- The defects of a struct or class. -/
def recordDefects (sort : RecordSort) (record : Record) : List Defect :=
  record.fields.flatMap (lib.fieldDefects sort record)

/-- The signature converts a value that may hold handles. -/
def converts (f : Function) : Bool :=
  lib.needsConversion f.returnType || f.params.any fun p => lib.needsConversion p.type

/-- A conversion without its key, or with a key that is no `int`. -/
def machineDefects (owner : Callable) (f : Function) : List Defect :=
  if lib.converts f then
    match f.machineParam? with
    | none => [⟨.signature owner, .machineMissing⟩]
    | some p =>
      (Place.signature owner).defectIf (p.type.name? != some "int") (.machineNotInt p.type)
  else []

/-- The defects that functions and callbacks share. -/
def signatureDefects (owner : Callable) (f : Function) : List Defect :=
  lib.referenceDefects (.returnType owner) f.returnType ++
    f.params.flatMap (fun p =>
      lib.referenceDefects (.param p.name owner) p.type ++
        (Place.param p.name owner).defectIf p.type.isVoid .voidParam) ++
    lib.machineDefects owner f

/-- A return type without a conversion. -/
def unsupportedReturn? (type : TypeRef) : Option Problem :=
  match lib.kindOf type with
  | .array =>
    if lib.needsConversion type then some .convertedArrayReturn
    else if type.containsBool then some .boolArrayReturn
    else none
  | _ => none

/-- A parameter without a conversion. -/
def unsupportedParam? (p : Param) : Option Problem :=
  match lib.kindOf p.type with
  | .bool => if p.isWritten then some .writtenBool else none
  | .handle | .structType => if p.direction = .buffer then some .bufferedValue else none
  | .array =>
    if lib.needsConversion p.type then some .convertedArrayParam
    else if p.type.containsBool then some .boolArrayParam
    else none
  | _ => none

/-- A parameter that a callback cannot forward. -/
def unsupportedCallbackParam? (p : Param) : Option Problem :=
  if p.isWritten then some .writtenCallbackParam
  else
    match lib.kindOf p.type with
    | .structType | .classType | .array => some .compositeCallbackParam
    | _ => none

/-- The defects of a function. -/
def functionDefects (f : Function) : List Defect :=
  lib.signatureDefects f.owner f ++
    (lib.unsupportedReturn? f.returnType).toList.map (fun problem =>
      ⟨.returnType f.owner, problem⟩) ++
    f.params.flatMap fun p =>
      (lib.unsupportedParam? p).toList.map fun problem => ⟨.param p.name f.owner, problem⟩

/-- The defects of an event. -/
def eventDefects (event : Event) : List Defect :=
  lib.signatureDefects event.owner event.handler ++
    event.handler.params.flatMap fun p =>
      (lib.unsupportedCallbackParam? p).toList.map fun problem =>
        ⟨.param p.name event.owner, problem⟩

/-- All defects of a library, in the order of a report. -/
def defects : List Defect :=
  lib.nameDefects ++ lib.enums.flatMap enumDefects ++
    lib.structs.flatMap (lib.recordDefects .structSort) ++
    lib.classes.flatMap (lib.recordDefects .classSort) ++
    lib.functions.flatMap lib.functionDefects ++ lib.events.flatMap lib.eventDefects

/-- A library without defects. -/
def Accepted : Prop := lib.defects = []

instance : Decidable lib.Accepted := inferInstanceAs (Decidable (lib.defects = []))

end Library

end InteropGlue
