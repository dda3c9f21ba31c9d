import InteropGlue.Glue.Declarations
/-!
# Function implementations

A function of the application surface calls the native entry point of its name. Parameters whose
values differ between the surfaces go through native temporaries:

1. the temporaries are declared, with the converted value of the caller for parameters by reference;
2. the entry point is called with the temporaries in place of these parameters;
3. every handle passed in is kept alive past the call;
4. what the temporaries hold is converted back into the parameters;
5. the result is converted and returned.

## Main Definitions

* `Buckets`, `Library.buckets` — the parameters of a function by the treatment they need.
* `Library.callArgument` — the argument for a parameter.
* `Library.temporaries`, `Library.entryCall`, `Library.keepAlives`, `Library.writeBacks`,
  `Library.returnSteps` — the five phases.
* `Library.implementation` — the body of a function.
-/

namespace InteropGlue

open CSharp

/-- Parameters by the treatment they need, each list in declaration order. -/
structure Buckets where
  /-- Handles that the callee writes. -/
  outHandles : List Param
  /-- Handles that are only passed in. -/
  inHandles : List Param
  /-- Structs that the callee writes. -/
  structs : List Param
  /-- Classes that the callee writes. -/
  classes : List Param
  deriving DecidableEq, Repr

/-- The name of the native temporary of a parameter. -/
def Param.temporary (p : Param) : String := p.name ++ "Temp"

/-- The name of the local that holds the result of the call. -/
def resultName : String := "result"

/-- The virtual machine, as conversions take it. -/
def machineExpr : Expr := .name machineParam

/-- The native value of an application value. -/
def unwrapCall (value : Expr) : Expr := .callOwn "Unwrap" [machineExpr, value]

/-- The application value of a native value. -/
def wrapCall (value : Expr) : Expr := .callOwn "Wrap" [machineExpr, value]

namespace Library

variable (lib : Library) (target : Target)

/-- The parameters of a function with one kind and one treatment by the callee. -/
def paramsOfKind (f : Function) (kind : Kind) (written : Bool) : List Param :=
  f.params.filter fun p => lib.kindOf p.type == kind && p.isWritten == written

/-- The parameters of a function by the treatment they need. -/
def buckets (f : Function) : Buckets :=
  { outHandles := lib.paramsOfKind f .handle true
    inHandles := lib.paramsOfKind f .handle false
    structs := lib.paramsOfKind f .structType true
    classes := lib.paramsOfKind f .classType true }

/-- The type of a parameter on the native surface. -/
def nativeType (p : Param) : String := lib.typeName (.native target) p.type

/-- The argument of the native call for a parameter. -/
def callArgument (p : Param) : Arg :=
  match lib.kindOf p.type with
  | .handle | .structType | .classType =>
    if p.isWritten then .pass p.direction.passing (.name p.temporary)
    else .value (unwrapCall (.name p.name))
  | .bool => .pass p.direction.passing (.callOwn "ToBOOL" [.name p.name])
  | _ => .pass p.direction.passing (.name p.name)

/-- The temporary of a written handle. -/
def handleTemporary (p : Param) : Step :=
  if p.isRef then .bind p.temporary (unwrapCall (.name p.name))
  else .declare (lib.nativeType target p) p.temporary

/-- The temporary of a written struct. -/
def structTemporary (p : Param) : Step :=
  match p.direction with
  | .byRef => .bind p.temporary (unwrapCall (.name p.name))
  | .output => .declare (lib.nativeType target p) p.temporary
  | .buffer | .input => .bind p.temporary (.create (lib.nativeType target p) [])

/-- The temporary of a written class. -/
def classTemporary (p : Param) : Step :=
  if p.isRef then .bind p.temporary (unwrapCall (.name p.name))
  else .bind p.temporary (.create (lib.nativeType target p) [])

/-- The declarations of all temporaries. -/
def temporaries (f : Function) : List Step :=
  (lib.buckets f).outHandles.map (lib.handleTemporary target) ++
    (lib.buckets f).structs.map (lib.structTemporary target) ++
    (lib.buckets f).classes.map (lib.classTemporary target)

/-- The call of the entry point. A result is kept in a local. -/
def entryCall (f : Function) : Step :=
  let call := Expr.call (.member (.name "EntryPoints") f.name) (f.params.map lib.callArgument)
  if f.returnType.isVoid then .evaluate call else .bind resultName call

/-- A handle kept alive up to this statement. -/
def keepAlive (p : Param) : Step :=
  .evaluate (.call (.member (.name "GC") "KeepAlive") [.value (.name p.name)])

/-- Handles that are only passed in outlive the native call. -/
def keepAlives (f : Function) : List Step := (lib.buckets f).inHandles.map keepAlive

/-- A handle or struct written back into its parameter. -/
def valueWriteBack (p : Param) : Step := .assign (.name p.name) (wrapCall (.name p.temporary))

/-- A class written back into the instance of its parameter, a new one if the caller gave none. -/
def classWriteBack (p : Param) : List Step :=
  (if p.isOut then
    [.assign (.name p.name) (.create (lib.typeName (.application target) p.type) [])]
  else []) ++
    [.evaluate (.callOwn "CopyWrap" [machineExpr, .name p.temporary, .name p.name])]

/-- All written parameters converted back. -/
def writeBacks (f : Function) : List Step :=
  ((lib.buckets f).outHandles ++ (lib.buckets f).structs).map valueWriteBack ++
    (lib.buckets f).classes.flatMap (lib.classWriteBack target)

/-- The result converted and returned. -/
def returnSteps (f : Function) : List Step :=
  let result := Expr.name resultName
  match lib.kindOf f.returnType with
  | .void => []
  | .bool => [.leave (some (.callOwn "ToBool" [result]))]
  | .handle | .structType | .classType => [.leave (some (wrapCall result))]
  | _ => [.leave (some result)]

/-- The statements of a function. -/
def implementationSteps (f : Function) : List Step :=
  lib.temporaries target f ++ [lib.entryCall f] ++ lib.keepAlives f ++ lib.writeBacks target f ++
    lib.returnSteps f

/-- A function of the application surface, implemented by its native entry point. -/
def implementation (f : Function) : Member :=
  .method "public override" (lib.signature (.application target) f.name f)
    (.ofSteps (lib.implementationSteps target f))

end Library

end InteropGlue
