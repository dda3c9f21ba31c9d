import InteropGlue.Glue.Functions
/-!
# Conversions of records

Every record has four routines: `Wrap` gives the application value of a native one and `Unwrap` the
native value of an application one, both in a new instance, and `CopyWrap` and `CopyUnwrap` fill an
instance that is already there. The first two call the last two.

* A handle or struct is replaced by its converted value, a boolean by its converted form, and any
  other value that is not an array by itself.
* A class in a field is filled in place, with a new instance if there is none; a class in an array
  is replaced by its converted value. A null source leaves a field as it was.
* An array is replaced by a new one with as many elements as its count says: the bound field of the
  source record, or else the length of the source array. Each element is converted by the same
  rules.

## Main Definitions

* `Conversion` — the two directions, with the surfaces they lead from and to.
* `Library.copyValue` — the statements that copy one value.
* `Library.allocatingRoutine`, `Library.copyRoutine` — the routines.
* `Library.conversionRoutines` — the four routines of a record.
* `scalarConversions` — the conversions of handles and booleans.
-/

namespace InteropGlue

open CSharp

/-- A direction of conversion between the two surfaces. -/
inductive Conversion
  /-- From native to application. -/
  | wrap
  /-- From application to native. -/
  | unwrap
  deriving DecidableEq, Repr

namespace Conversion

/-- The surface that is converted from. -/
def sourceMode (conversion : Conversion) (target : Target) : Mode :=
  match conversion with
  | .wrap => .native target
  | .unwrap => .application target

/-- The surface that is converted to. -/
def destMode (conversion : Conversion) (target : Target) : Mode :=
  (conversion.sourceMode target).inverted

/-- The routine that gives a converted value. -/
def valueRoutine : Conversion → String
  | .wrap => "Wrap"
  | .unwrap => "Unwrap"

/-- The routine that fills an instance. -/
def copyRoutine : Conversion → String
  | .wrap => "CopyWrap"
  | .unwrap => "CopyUnwrap"

/-- The routine that converts a boolean. -/
def boolRoutine : Conversion → String
  | .wrap => "ToBool"
  | .unwrap => "ToBOOL"

end Conversion

/-- A place of copying: the direction, the target, whether a class there is filled in place, and the
number of array levels around it, which names the loop variables. -/
structure CopyRule where
  target : Target
  conversion : Conversion
  inPlace : Bool
  depth : Nat
  deriving DecidableEq, Repr

namespace CopyRule

/-- The rule for the elements of an array. -/
def forElements (rule : CopyRule) : CopyRule :=
  { rule with inPlace := false, depth := rule.depth + 1 }

/-- The local that holds the count of elements. -/
def countName (rule : CopyRule) : String := "count" ++ toString rule.depth

/-- The index of the loop over the elements. -/
def indexName (rule : CopyRule) : String := "i" ++ toString rule.depth

/-- The converted value of an expression. -/
def convert (rule : CopyRule) (value : Expr) : Expr :=
  .callOwn rule.conversion.valueRoutine [machineExpr, value]

end CopyRule

/-- The parameter of the virtual machine. -/
def machineParameter : Parameter :=
  { marshal := none, isBuffer := false, passing := .byValue, type := "int", name := machineParam }

/-- A parameter without annotations. -/
def plainParameter (passing : Passing) (type name : String) : Parameter :=
  { marshal := none, isBuffer := false, passing, type, name }

namespace Library

variable (lib : Library)

/-- A class copied into the instance at the destination. -/
def fillClass (rule : CopyRule) (type : TypeRef) (source dest : Expr) : Block :=
  .ifHolds (.compare .notEqual source .null)
    (.guarded (.compare .equal dest .null)
      (.ofSteps
        [.assign dest (.create (lib.typeName (rule.conversion.destMode rule.target) type) [])])
      (.ofSteps [.evaluate (.callOwn rule.conversion.copyRoutine [machineExpr, source, dest])]))

/-- The statements that copy a value of a type. `count` is the bound count of elements. -/
def copyValue (rule : CopyRule) (source dest : Expr) (count : Option Expr) : TypeRef → Block
  | .named name =>
    let assign (value : Expr) : Block := .ofSteps [.assign dest value]
    match lib.kindOfName name with
    | .structType | .handle => assign (rule.convert source)
    | .classType =>
      if rule.inPlace then lib.fillClass rule (.named name) source dest
      else assign (rule.convert source)
    | .bool => assign (.callOwn rule.conversion.boolRoutine [source])
    | _ => assign source
  | .array element _ =>
    let size := Expr.name rule.countName
    let index := Expr.name rule.indexName
    .ifHolds (.compare .notEqual source .null)
      (.step (.bind rule.countName (count.getD (.member source "Length")))
        (.step
          (.assign dest
            (.createArray (lib.typeName (rule.conversion.destMode rule.target) element) size))
          (.counted rule.indexName size
            (copyValue rule.forElements (.element source index) (.element dest index) none
              element)
            .done)))

/-- The statements that copy a field between two records. -/
def copyField (target : Target) (conversion : Conversion) (field : Field) : Block :=
  let source := Expr.name "infoSrc"
  lib.copyValue { target, conversion, inPlace := true, depth := 0 } (.member source field.name)
    (.member (.name "infoDest") field.name) (field.countField?.map (.member source)) field.type

/-- The routine that fills an instance of a record. A struct to be filled is passed by reference. -/
def copyRoutine (target : Target) (conversion : Conversion) (isClass : Bool) (record : Record) :
    Member :=
  let sourceType := lib.typeName (conversion.sourceMode target) (.named record.name)
  let destType := lib.typeName (conversion.destMode target) (.named record.name)
  .method "private"
    { returns := "void"
      name := conversion.copyRoutine
      params :=
        [machineParameter, plainParameter .byValue sourceType "infoSrc",
          plainParameter (if isClass then .byValue else .ref) destType "infoDest"] }
    (.concat (record.fields.map (lib.copyField target conversion)))

/-- The routine that converts a record into a new instance. No instance of a class stays none. -/
def allocatingRoutine (target : Target) (conversion : Conversion) (isClass : Bool)
    (record : Record) : Member :=
  let sourceType := lib.typeName (conversion.sourceMode target) (.named record.name)
  let destType := lib.typeName (conversion.destMode target) (.named record.name)
  let info := Expr.name "info"
  let result := Expr.name resultName
  let guard :=
    if isClass then
      Block.ifHolds (.compare .equal info .null) (.ofSteps [.leave (some .null)])
    else .done
  .method "private"
    { returns := destType
      name := conversion.valueRoutine
      params := [machineParameter, plainParameter .byValue sourceType "info"] }
    (guard ++ .ofSteps
      [.bind resultName (.create destType []),
        .evaluate (.call (.name conversion.copyRoutine)
          [.value machineExpr, .value info, .pass (if isClass then .byValue else .ref) result]),
        .leave (some result)])

/-- The four routines of a record. -/
def conversionRoutines (target : Target) (isClass : Bool) (record : Record) : List Member :=
  [lib.allocatingRoutine target .wrap isClass record,
    lib.allocatingRoutine target .unwrap isClass record,
    lib.copyRoutine target .wrap isClass record,
    lib.copyRoutine target .unwrap isClass record]

end Library

/-! ### Handles and booleans -/

/-- The truth value of a native boolean. -/
def toBoolRoutine : Member :=
  .method "private static"
    { returns := "bool", name := "ToBool", params := [plainParameter .byValue nativeBool "value"] }
    (.ofSteps [.leave (some (.compare .notEqual (.name "value") (.number 0)))])

/-- The native boolean of a truth value. -/
def toNativeBoolRoutine : Member :=
  .method "private static"
    { returns := nativeBool, name := "ToBOOL", params := [plainParameter .byValue "bool" "value"] }
    (.ofSteps [.leave (some (.choose (.name "value") (.number 1) (.number 0)))])

/-- The handle object of a native handle. -/
def wrapHandleRoutine (target : Target) : Member :=
  .method "private"
    { returns := handleType
      name := Conversion.wrap.valueRoutine
      params := [machineParameter, plainParameter .byValue target.handleName "handle"] }
    (.ofSteps
      [.leave (some (.create handleType [.value machineExpr, .value (.name "handle")]))])

/-- The native handle of a handle object, zero for none. -/
def unwrapHandleRoutine (target : Target) : Member :=
  let object := Expr.name "objectHandle"
  .method "private"
    { returns := target.handleName
      name := Conversion.unwrap.valueRoutine
      params := [machineParameter, plainParameter .byValue handleType "objectHandle"] }
    (.guarded (.compare .equal object .null) (.ofSteps [.leave (some (.number 0))])
      (.ofSteps [.leave (some (.cast target.handleName (.member object "Handle")))]))

/-- The conversions of handles and booleans, in both directions or towards the application only. -/
def scalarConversions (target : Target) (bothWays : Bool) : List Member :=
  if bothWays then
    [toBoolRoutine, toNativeBoolRoutine, wrapHandleRoutine target, unwrapHandleRoutine target]
  else [toBoolRoutine, wrapHandleRoutine target]

end InteropGlue
