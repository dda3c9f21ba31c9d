import Mathlib.Data.List.Basic
import InteropGlue.Glue.Classes
import InteropGlue.Proofs.CSharp.Value
/-!
# Runs of generated source

What the body of a method does. A run that throws or does not end has no outcome.

## Main Definitions

* `State` — the variables of a method and the native calls it has made.
* `State.read`, `State.store` — the value at a place, and the state with another value there.
* `Machine` — the types, methods and entry points around a body.
* `Machine.construct?` — a new instance of a type.
* `eval`, `exec` — expressions and blocks.
* `Machine.run?`, `Machine.invoke?` — a method, and a call of a method by a body.

## Main Results

* `eval_*`, `exec_*` — one equation for each form of expression and statement.

## Design Notes

The callee of a call is found in the class: among its methods by name, keywords and types of the
arguments, and among the entry points by name. Every other name is a variable. A variable ends with
the block that declares it, and no name is declared again while it is in scope.

An argument by value is given to the callee itself, so what the callee does to the content of an
instance shows in the argument. The callee could also take another instance for its parameter, which
the caller would not see: generated source never does, and a run that does has no outcome here.
-/

namespace InteropGlue.CSharp

variable {F : Framework}

/-! ### Variables -/

/-- What a name means in the body of a method. -/
inductive Slot (F : Framework)
  | absent
  /-- A variable without a value. -/
  | unassigned
  | holds (value : Value F)

/-- The value of a variable that has one. -/
def Slot.value? : Slot F → Option (Value F)
  | .holds value => some value
  | _ => none

/-- A call of an entry point, with the values of the arguments. There is none for an argument that
the callee only writes. -/
structure Call (F : Framework) where
  name : String
  args : List (Option (Value F))

/-- The state of a running method. -/
structure State (F : Framework) where
  locals : String → Slot F
  /-- Parameters passed by value. -/
  fixed : List String
  calls : List (Call F)

namespace State

variable (σ : State F)

/-- The state with another meaning of a name. -/
def set (name : String) (slot : Slot F) : State F :=
  { σ with locals := Function.update σ.locals name slot }

/-- A new variable. -/
def declare? (name : String) (slot : Slot F) : Option (State F) :=
  match σ.locals name with
  | .absent => some (σ.set name slot)
  | _ => none

/-- The state after a block: the variables of the block are gone. -/
def leaving (before : State F) : State F :=
  { σ with
    locals := fun name =>
      match before.locals name with
      | .absent => .absent
      | _ => σ.locals name }

/-- The value at a place. -/
def read : Expr → Option (Value F)
  | .name name => (σ.locals name).value?
  | .member owner name => do (← read owner).member name
  | .element array index => do
    let position ← (← read index).index?
    (← read array).element position
  | _ => none
termination_by structural e => e

/-- The state with another value at a place. -/
def store : Expr → Value F → Option (State F)
  | .name name, value =>
    match σ.locals name with
    | .absent => none
    | _ => some (σ.set name (.holds value))
  | .member owner name, value => do
    let updated ← (← σ.read owner).withMember name value
    store owner updated
  | .element array index, value => do
    let position ← (← σ.read index).index?
    let updated ← (← σ.read array).withElement position value
    store array updated
  | _, _ => none
termination_by structural e => e

/-- The state after an assignment. A parameter passed by value is not assigned itself. -/
def assign (target : Expr) (value : Value F) : Option (State F) :=
  match target with
  | .name name => if name ∈ σ.fixed then none else σ.store (.name name) value
  | target => σ.store target value

end State

/-! ### Machines -/

/-- What native code does in a call: what it leaves in the parameters that it writes, by name, and
what it returns. -/
structure Reply (F : Framework) where
  written : String → Value F
  result : Value F

/-- The types, methods and entry points around a body, and what native code does. -/
structure Machine (F : Framework) where
  types : List TypeDecl
  routines : List Member
  entryPoints : List Delegate
  native : String → List (Option (Value F)) → Reply F

/-- Arguments of a call with their keywords. -/
abbrev Given (F : Framework) := List (Passing × Option (Value F))

/-- What a method has done: the native calls, the values of its parameters and its result. -/
structure Outcome (F : Framework) where
  calls : List (Call F)
  finals : List (Value F)
  result : Value F

/-- The value of a method or delegate that returns none. -/
def Value.nothing : Value F := .null "void"

/-- The type holds integers. -/
def isNumeric (type : String) : Bool :=
  isIntegerPrimitive type || type == nativeBool || type == Target.modern.handleName ||
    type == Target.legacy.handleName

/-- What follows the name in the type of an element are array marks. -/
def hasPlainMarks : List Char → Bool
  | [] => true
  | '[' :: ']' :: rest => hasPlainMarks rest
  | _ => false

namespace Machine

variable (M : Machine F)

mutual

/-- A new instance of a type, or the default value of a struct. A name that is declared twice means
nothing. -/
def construct? (M : Machine F) (type : String) : Option (Value F) :=
  match M.types.filter (·.name == type) with
  | [decl] => do
    let fields ← M |>.initialFields? decl.members
    match decl.sort with
    | .struct => some (.record type .inline fields)
    | .plainClass => some (.record type .fresh fields)
    | _ => none
  | _ => none
partial_fixpoint

/-- The values that the fields of a new record start with. -/
def initialFields? (M : Machine F) (members : List Member) : Option (String → Value F) :=
  match members with
  | [] => some fun _ => .nothing
  | .field _ _ type name none :: rest => do
    let value ← M |>.default? type
    let fields ← M |>.initialFields? rest
    some (Function.update fields name value)
  | .field _ _ _ name (some (.create type [])) :: rest => do
    let value ← M |>.construct? type
    let fields ← M |>.initialFields? rest
    some (Function.update fields name value)
  | _ => none
partial_fixpoint

/-- What a field or element of a type holds before anything is assigned to it. -/
def default? (M : Machine F) (type : String) : Option (Value F) :=
  match M.types.filter (·.name == type) with
  | [decl] => if decl.sort = .struct then M |>.construct? type else some (.null type)
  | [] =>
    if type.toList.getLast? = some ']' ∨ type = handleType then some (.null type)
    else if isNumeric type then some (.number type 0)
    else if type = "bool" then some (.truth false)
    else
      match F.initial? type with
      | some datum => some (.datum type datum)
      | none => some (.null type)
  | _ => none
partial_fixpoint

end

/-- A new array with a number of elements of a type. -/
def createArray? (elementType : String) (size : Value F) : Option (Value F) := do
  let length ← size.index?
  let start ← M.default? elementType
  if hasPlainMarks (elementType.toList.dropWhile (· != '[')) ∧ length ≤ maxLength then
    some (.array elementType .fresh length fun _ => start)
  else none

/-- The method that a call by a body means. -/
def routine? (name : String) (given : Given F) : Option Member := do
  let types ← given.mapM fun arg => do some (arg.1, (← arg.2).type)
  M.routines.find? fun
    | .method _ signature _ =>
      signature.name == name && signature.params.map (fun p => (p.passing, p.type)) == types
    | _ => false

/-- The entry point of a name. -/
def entryPoint? (name : String) : Option Delegate :=
  M.entryPoints.find? (·.signature.name == pointerName name)

end Machine

/-! ### Calls -/

/-- The expression is a place. -/
def Expr.isPlace : Expr → Bool
  | .name _ | .member _ _ | .element _ _ => true
  | _ => false

/-- What an argument by value holds once the callee has left a value in its parameter: an instance
is the callee's as well, anything else is a copy. -/
def Value.afterCall (given final : Value F) : Value F := if final.isShared then final else given

/-- The state after a call: the places passed by reference hold what the callee left there, and the
instances passed by value are as the callee left them. -/
def State.passBack (σ : State F) : List Arg → List (Value F) → Option (State F)
  | [], [] => some σ
  | .pass passing target :: args, final :: finals => do
    let σ ← if passing = .byValue ∧ ¬ (target.isPlace ∧ final.isShared) then some σ
      else σ.store target final
    σ.passBack args finals
  | _, _ => none

/-- The state in which a method starts. A parameter that the method sets has no value. -/
def State.entering : List Parameter → List (Option (Value F)) → Option (State F)
  | [], [] => some { locals := fun _ => .absent, fixed := [], calls := [] }
  | p :: params, arg :: args => do
    let σ ← State.entering params args
    let σ := if p.passing = .byValue then { σ with fixed := p.name :: σ.fixed } else σ
    match p.passing, arg with
    | .out, none => σ.declare? p.name .unassigned
    | .byValue, some value | .ref, some value => σ.declare? p.name (.holds value)
    | _, _ => none
  | _, _ => none

/-- What the callee leaves in an argument of a native call. -/
def Reply.final (reply : Reply F) (p : Parameter) (arg : Option (Value F)) : Value F :=
  match p.passing, arg with
  | .byValue, some value => if p.isBuffer then value.filledWith (reply.written p.name) else value
  | _, _ => reply.written p.name

/-- How a block ends. -/
inductive Ending (F : Framework)
  | next
  | left (value : Option (Value F))

/-- The result of a method that ends so. -/
def Ending.result? (returns : String) : Ending F → Option (Value F)
  | .left (some value) => if returns = "void" then none else value.returnedAs returns
  | _ => if returns = "void" then some .nothing else none

/-! ### Expressions and statements -/

mutual

/-- The value of an expression, and the state after it. -/
def Machine.eval (M : Machine F) (σ : State F) (e : Expr) : Option (Value F × State F) :=
  match e with
  | .null => some (.null nullType, σ)
  | .number value => some (.number "int" value, σ)
  | .compare comparison left right => do
    let (leftValue, σ) ← M |>.eval σ left
    let (rightValue, σ) ← M |>.eval σ right
    let outcome ← Value.compare comparison leftValue rightValue
    some (.truth outcome, σ)
  | .choose condition yes no => do
    let (value, σ) ← M |>.eval σ condition
    let holds ← value.truth?
    if holds then M |>.eval σ yes else M |>.eval σ no
  | .cast type operand => do
    let (value, σ) ← M |>.eval σ operand
    let converted ← value.cast type
    some (converted, σ)
  | .call callee args => do
    let (given, σ) ← M |>.evalArgs σ args
    match callee with
    | .name name => do
      let (finals, result) ← M |>.invoke? name given
      let σ ← σ.passBack args finals
      some (result, σ)
    | .member (.name "EntryPoints") name => do
      let entryPoint ← M.entryPoint? name
      let params := entryPoint.signature.params
      if given.map Prod.fst = params.map (·.passing) then do
        let reply := M.native name (given.map Prod.snd)
        let σ ← σ.passBack args (List.zipWith reply.final params (given.map Prod.snd))
        let result :=
          if entryPoint.signature.returns = "void" then .nothing else reply.result
        some (result, { σ with calls := σ.calls ++ [⟨name, given.map Prod.snd⟩] })
      else none
    | .member (.name "GC") "KeepAlive" => some (.nothing, σ)
    | _ => none
  | .create type args => do
    let (given, σ) ← M |>.evalArgs σ args
    match given with
    | [] => do some (← M.construct? type, σ)
    | [(.byValue, some (.number _ key)), (.byValue, some (.number _ handle))] =>
      if type = handleType then some (.object (F.handleObject key handle), σ) else none
    | _ => none
  | .createArray elementType size => do
    let (length, σ) ← M |>.eval σ size
    let array ← M.createArray? elementType length
    some (array, σ)
  | place => do
    let value ← σ.read place
    some (value, σ)
partial_fixpoint

/-- The values of arguments, and the state after them. -/
def Machine.evalArgs (M : Machine F) (σ : State F) (args : List Arg) :
    Option (Given F × State F) :=
  match args with
  | [] => some ([], σ)
  | .pass .byValue e :: rest => do
    let (value, σ) ← M |>.eval σ e
    let (given, σ) ← M |>.evalArgs σ rest
    some ((.byValue, some value) :: given, σ)
  | .pass .ref target :: rest => do
    let value ← σ.read target
    let (given, σ) ← M |>.evalArgs σ rest
    some ((.ref, some value) :: given, σ)
  | .pass .out _ :: rest => do
    let (given, σ) ← M |>.evalArgs σ rest
    some ((.out, none) :: given, σ)
partial_fixpoint

/-- What a method does with arguments. -/
def Machine.run? (M : Machine F) (method : Member) (args : List (Option (Value F))) :
    Option (Outcome F) :=
  match method with
  | .method _ signature body => do
    let σ ← State.entering signature.params args
    let (ending, σ) ← M |>.exec σ body
    let result ← ending.result? signature.returns
    let finals ← signature.params.mapM fun p => (σ.locals p.name).value?
    some { calls := σ.calls, finals, result }
  | _ => none
partial_fixpoint

/-- What a call of a method by a body leaves in the arguments, and its result. A method called so
makes no native calls. -/
def Machine.invoke? (M : Machine F) (name : String) (given : Given F) :
    Option (List (Value F) × Value F) := do
  let routine ← M.routine? name given
  let outcome ← M |>.run? routine (given.map Prod.snd)
  if outcome.calls.isEmpty then some (outcome.finals, outcome.result) else none
partial_fixpoint

/-- How a block ends, and the state after it. -/
def Machine.exec (M : Machine F) (σ : State F) (block : Block) : Option (Ending F × State F) :=
  match block with
  | .done => some (.next, σ)
  | .step (.declare _ name) rest => do
    let σ ← σ.declare? name .unassigned
    M |>.exec σ rest
  | .step (.bind name e) rest => do
    let (value, σ) ← M |>.eval σ e
    let σ ← σ.declare? name (.holds value)
    M |>.exec σ rest
  | .step (.assign target e) rest => do
    let (value, σ) ← M |>.eval σ e
    let σ ← σ.assign target value
    M |>.exec σ rest
  | .step (.evaluate e) rest => do
    let (_, σ) ← M |>.eval σ e
    M |>.exec σ rest
  | .step (.leave none) _ => some (.left none, σ)
  | .step (.leave (some e)) _ => do
    let (value, σ) ← M |>.eval σ e
    some (.left (some value), σ)
  | .step _ _ => none
  | .guarded condition body rest => do
    let (value, σ) ← M |>.eval σ condition
    let holds ← value.truth?
    if holds then do
      let (ending, inner) ← M |>.exec σ body
      match ending with
      | .next => M |>.exec (inner.leaving σ) rest
      | .left result => some (.left result, inner)
    else M |>.exec σ rest
  | .counted index bound body rest => do
    let start ← σ.declare? index (.holds (.number "int" 0))
    let (ending, inner) ← M |>.loop start index bound body
    match ending with
    | .next => M |>.exec (inner.leaving σ) rest
    | .left result => some (.left result, inner)
partial_fixpoint

/-- A loop from the current index up to the bound. -/
def Machine.loop (M : Machine F) (σ : State F) (index : String) (bound : Expr) (body : Block) :
    Option (Ending F × State F) := do
  let (more, σ) ← M |>.eval σ (.compare .less (.name index) bound)
  let holds ← more.truth?
  if holds then do
    let (ending, inner) ← M |>.exec σ body
    match ending with
    | .next => do
      let σ := inner.leaving σ
      let position ← (← σ.read (.name index)).index?
      let σ ← σ.store (.name index) (.number "int" (position + 1))
      M |>.loop σ index bound body
    | .left result => some (.left result, inner)
  else some (.next, σ)
partial_fixpoint

end

export Machine (eval evalArgs exec loop)

end InteropGlue.CSharp
