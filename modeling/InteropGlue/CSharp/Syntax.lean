/-!
# Syntax of the generated language

The part of the language that generated source uses: expressions, statements, members and types. A
type is named by its spelling.

## Main Definitions

* `Expr`, `Arg` — expressions and the arguments of calls.
* `Step`, `Block` — statements without a body, and sequences of statements.
* `Signature`, `Member` — members of types.
* `TypeDecl`, `Declaration` — what a namespace declares.
* `Section` — an arrangement of entries with blank lines and regions.
* `SourceFile` — a whole file.

## Design Notes

A statement with a body carries the statements after it, as laid-out code does, so a block is one
inductive type without lists of itself. Blank lines and regions are kept beside the entries they
arrange: `Section.entries` forgets them.
-/

namespace InteropGlue.CSharp

/-! ### Expressions -/

/-- How an argument or parameter is passed. -/
inductive Passing
  | byValue
  | out
  | ref
  deriving DecidableEq, Repr

/-- A comparison of two values. -/
inductive Comparison
  | equal
  | notEqual
  | less
  deriving DecidableEq, Repr

mutual

/-- An expression. -/
inductive Expr
  /-- A local, parameter, field or type by its name. -/
  | name (name : String)
  /-- A member of a value or type. -/
  | member (owner : Expr) (name : String)
  /-- An element of an array. -/
  | element (array index : Expr)
  | null
  | number (value : Nat)
  | compare (comparison : Comparison) (left right : Expr)
  /-- The second expression if the first holds, else the third. -/
  | choose (condition yes no : Expr)
  | cast (type : String) (value : Expr)
  | call (callee : Expr) (args : List Arg)
  /-- A new instance of a type. -/
  | create (type : String) (args : List Arg)
  /-- A new array with a number of elements of a type. -/
  | createArray (elementType : String) (size : Expr)

/-- An argument of a call. -/
inductive Arg
  | pass (passing : Passing) (value : Expr)

end

/-- An argument passed by value. -/
def Arg.value (value : Expr) : Arg := .pass .byValue value

/-- A call of a method of the enclosing type with arguments by value. -/
def Expr.callOwn (method : String) (args : List Expr) : Expr :=
  .call (.name method) (args.map Arg.value)

/-! ### Statements -/

/-- A statement without a body. -/
inductive Step
  /-- A local without a value. -/
  | declare (type name : String)
  /-- A local with a value, whose type it takes. -/
  | bind (name : String) (value : Expr)
  | assign (target value : Expr)
  /-- A handler combined into a delegate, or an event subscribed to. -/
  | attach (target value : Expr)
  /-- A handler removed from a delegate, or an event unsubscribed from. -/
  | detach (target value : Expr)
  | increment (target : Expr)
  | decrement (target : Expr)
  | evaluate (value : Expr)
  | leave (value : Option Expr)

/-- A sequence of statements, each followed by the rest of the sequence. -/
inductive Block
  | done
  | step (step : Step) (rest : Block)
  /-- A body that runs if the condition holds. -/
  | guarded (condition : Expr) (body rest : Block)
  /-- A body that runs for each value of the index from zero up to the bound. -/
  | counted (index : String) (bound : Expr) (body rest : Block)

namespace Block

/-- One block after another. -/
def append : Block → Block → Block
  | done, next => next
  | step s rest, next => step s (append rest next)
  | guarded condition body rest, next => guarded condition body (append rest next)
  | counted index bound body rest, next => counted index bound body (append rest next)

instance : Append Block := ⟨append⟩

/-- Statements without a body, in order. -/
def ofSteps (steps : List Step) : Block := steps.foldr step done

/-- Blocks in order. -/
def concat (blocks : List Block) : Block := blocks.foldr (· ++ ·) done

/-- A body under a condition, as a block of its own. -/
def ifHolds (condition : Expr) (body : Block) : Block := guarded condition body done

end Block

/-! ### Members -/

/-- A parameter of a declared signature. -/
structure Parameter where
  /-- The attribute that describes the native layout. -/
  marshal : Option String
  /-- The mark of a buffer that the callee fills. -/
  isBuffer : Bool
  passing : Passing
  type : String
  name : String
  deriving DecidableEq, Repr

/-- The name of a method or delegate with its types. -/
structure Signature where
  returns : String
  name : String
  params : List Parameter
  deriving DecidableEq, Repr

/-- A delegate type. -/
structure Delegate where
  attributes : List String
  signature : Signature
  deriving DecidableEq, Repr

/-- A member of a type. -/
inductive Member
  | field (attributes : List String) (modifiers type name : String) (initial : Option Expr)
  | enumValue (name value : String)
  | abstractMethod (signature : Signature)
  | method (modifiers : String) (signature : Signature) (body : Block)
  | constructor (type : String) (params : List Parameter) (body : Block)
  /-- A property that can only be read. -/
  | property (type name : String) (value : Expr)
  /-- A property that stores what is assigned to it. -/
  | slot (type name : String)
  | abstractEvent (type name : String)
  | event (modifiers type name : String) (add remove : Block)
  | delegate (delegate : Delegate)

/-! ### Arrangements -/

/-- An entry or a blank line. -/
inductive Item (α : Type)
  | entry (value : α)
  | blank
  deriving Repr

/-- A part of a listing: an item, or a titled region of items. -/
inductive Section (α : Type)
  | item (item : Item α)
  | region (title : String) (items : List (Item α))
  deriving Repr

/-- The entry of an item. -/
def Item.value? {α : Type} : Item α → Option α
  | .entry value => some value
  | .blank => none

namespace Section

variable {α : Type}

/-- An entry outside all regions. -/
def entry (value : α) : Section α := .item (.entry value)

/-- A blank line outside all regions. -/
def blank : Section α := .item .blank

/-- A region of entries without blank lines. -/
def regionOf (title : String) (values : List α) : Section α := .region title (values.map .entry)

/-- The items of a part, without the region lines. -/
def items : Section α → List (Item α)
  | .item single => [single]
  | .region _ items => items

/-- The entries of a part, in order. -/
def entries (part : Section α) : List α := part.items.filterMap Item.value?

end Section

/-- Values with a blank line between each two of them. -/
def Item.spaced {α : Type} : List α → List (Item α)
  | [] => []
  | [value] => [.entry value]
  | value :: rest => .entry value :: .blank :: spaced rest

/-- Values with a blank line after each of them. -/
def Item.trailed {α : Type} (values : List α) : List (Item α) :=
  values.flatMap fun value => [.entry value, .blank]

/-! ### Types and files -/

/-- The sort of a declared type. -/
inductive TypeSort
  | abstractClass
  | partialClass
  | plainClass
  | struct
  | enum
  deriving DecidableEq, Repr

/-- A declared type. -/
structure TypeDecl where
  attributes : List String
  sort : TypeSort
  name : String
  /-- The type it derives from, or the type of the values of an enum. -/
  base : Option String
  body : List (Section Member)

/-- The members of a type, in order. -/
def TypeDecl.members (decl : TypeDecl) : List Member := decl.body.flatMap Section.entries

/-- A declaration in a namespace. -/
inductive Declaration
  | type (decl : TypeDecl)
  | delegate (delegate : Delegate)

/-- The name of a declaration. -/
def Declaration.name : Declaration → String
  | .type decl => decl.name
  | .delegate d => d.signature.name

/-- A titled part of a namespace. -/
structure Chapter where
  title : String
  body : List (Section Declaration)

/-- The declarations of a chapter, in order. -/
def Chapter.declarations (chapter : Chapter) : List Declaration :=
  chapter.body.flatMap Section.entries

/-- A whole file: a comment, imports and aliases, and a namespace of chapters with a blank line
between each two of them. -/
structure SourceFile where
  comment : List String
  usings : List String
  aliases : List (String × String)
  namespaceName : String
  chapters : List Chapter

/-- The declarations of a file, in order. -/
def SourceFile.declarations (file : SourceFile) : List Declaration :=
  file.chapters.flatMap Chapter.declarations

end InteropGlue.CSharp
