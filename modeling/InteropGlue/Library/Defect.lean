import InteropGlue.Library.TypeText
/-!
# Defects of libraries

A defect is something that would make the generated source wrong. It says where it was found and
what is wrong there; the wording is in this module only.

## Main Definitions

* `Place` — where a defect is found.
* `Problem` — what is wrong.
* `Defect`, `Defect.message` — the two together, and their text.
* `Defect.report` — the text that lists all defects of a library.
-/

namespace InteropGlue

/-- The two sorts of record. -/
inductive RecordSort
  | structSort
  | classSort
  deriving DecidableEq, Repr

/-- The keyword of a sort of record. -/
def RecordSort.keyword : RecordSort → String
  | .structSort => "struct"
  | .classSort => "class"

/-- The owner of a signature. -/
inductive Callable
  | function (name : String)
  | event (name : String)
  deriving DecidableEq, Repr

/-- Where a defect is found. -/
inductive Place
  | typeName (name : String)
  | entryPoint (name : String)
  | enumType (name : String)
  | field (name : String) (sort : RecordSort) (record : String)
  | signature (owner : Callable)
  | returnType (owner : Callable)
  | param (name : String) (owner : Callable)
  deriving DecidableEq, Repr

/-- What is wrong at a place. -/
inductive Problem
  /-- The name was declared before. -/
  | repeated
  | underlyingNotInteger (type : TypeRef)
  | arrayOfVoid
  | unresolved (name : String)
  | voidParam
  /-- Something is converted, but nothing identifies the virtual machine. -/
  | machineMissing
  | machineNotInt (type : TypeRef)
  | countMissing (field : String)
  | countNotInteger (field : String)
  | containsItself
  | convertedArrayReturn
  | boolArrayReturn
  | writtenBool
  /-- A value type in a buffer of the caller. -/
  | bufferedValue
  | convertedArrayParam
  | boolArrayParam
  | writtenCallbackParam
  | compositeCallbackParam
  deriving DecidableEq, Repr

/-- A problem and where it is. -/
structure Defect where
  place : Place
  problem : Problem
  deriving DecidableEq, Repr

/-- A name as messages show it. -/
def ticked (name : String) : String := "`" ++ name ++ "`"

/-- The text of the owner of a signature. -/
def Callable.text : Callable → String
  | .function name => "function " ++ ticked name
  | .event name => "event " ++ ticked name

/-- The text of a place. -/
def Place.text : Place → String
  | .typeName name => "type " ++ ticked name
  | .entryPoint name => "entry point " ++ ticked name
  | .enumType name => "enum " ++ ticked name
  | .field name sort record =>
    "field " ++ ticked name ++ " of " ++ sort.keyword ++ " " ++ ticked record
  | .signature owner => owner.text
  | .returnType owner => "return type of " ++ owner.text
  | .param name owner => "param " ++ ticked name ++ " of " ++ owner.text

/-- The text of a problem. -/
def Problem.text : Problem → String
  | .repeated => "declared more than once"
  | .underlyingNotInteger type =>
    "underlying type " ++ type.describe ++ " is not an integer primitive"
  | .arrayOfVoid => "arrays of void are not allowed"
  | .unresolved name => "unresolved type " ++ ticked name
  | .voidParam => "parameters cannot be void"
  | .machineMissing => "converts handles or records but has no `vmid` parameter"
  | .machineNotInt type => "`vmid` must be `int`, found " ++ type.describe
  | .countMissing field => "count field " ++ ticked field ++ " does not exist"
  | .countNotInteger field => "count field " ++ ticked field ++ " is not an integer"
  | .containsItself => "struct contains itself by value"
  | .convertedArrayReturn => "array returns of handles or records are not supported"
  | .boolArrayReturn => "bool array returns are not supported"
  | .writtenBool => "written bool parameters are not supported"
  | .bufferedValue => "`out_attr` is only supported for classes and buffers; use `out` or `ref`"
  | .convertedArrayParam => "array parameters of handles or records are not supported"
  | .boolArrayParam => "bool array parameters are not supported"
  | .writtenCallbackParam => "callback parameters must be inputs"
  | .compositeCallbackParam => "callback parameters cannot be records or arrays"

/-- The text of a defect. -/
def Defect.message (defect : Defect) : String :=
  defect.place.text ++ " — " ++ defect.problem.text

/-- The report of all defects, after their number. -/
def Defect.report (defects : List Defect) : String :=
  toString defects.length ++ " schema defect(s) found:\n" ++
    String.join (defects.map fun defect => "\n  • " ++ defect.message)

end InteropGlue
