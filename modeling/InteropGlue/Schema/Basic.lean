import InteropGlue.Surface
/-!
# Schemas

The description of a native library as a document states it, with all defaults filled in. Types are
still texts here; a library is what they are read as.

## Main Definitions

* `Schema` — a whole description.
* `OutputDecl` — how the generated source is to look.
* `AliasDecl`, `FunctionDecl`, `EventDecl`, `ParamDecl`, `EnumDecl`, `RecordDecl`, `FieldDecl` — the
  declarations.
-/

namespace InteropGlue

/-- The file to generate. -/
structure OutputDecl where
  namespaceName : String
  /-- The stem of the names of generated classes. -/
  library : String
  /-- The path of the file, relative to the document. -/
  file : String
  /-- The text of the comment at the top of the file. -/
  license : Option String
  usings : List String
  targets : List Target
  deriving DecidableEq, Repr

namespace OutputDecl

/-- The stem of class names unless a document gives one. -/
def defaultLibrary : String := "AccessBridge"

/-- The path of the file unless a document gives one. -/
def defaultFile : String := "Generated.cs"

/-- The imported namespaces unless a document gives them. -/
def defaultUsings : List String := ["System", "System.Runtime.InteropServices", "System.Text"]

/-- The targets unless a document gives them. -/
def defaultTargets : List Target := [.modern, .legacy]

end OutputDecl

/-- A name that stands for a type of the framework. -/
structure AliasDecl where
  name : String
  target : String
  deriving DecidableEq, Repr

/-- A parameter; without a direction, its type text decides between input and by reference. -/
structure ParamDecl where
  name : String
  type : String
  direction : Option Direction
  marshal : Option Marshal
  deriving DecidableEq, Repr

/-- An exported function. -/
structure FunctionDecl where
  name : String
  returns : String
  returnMarshal : Option Marshal
  params : List ParamDecl
  deriving DecidableEq, Repr

/-- The return type of a function unless a document gives one. -/
def FunctionDecl.defaultReturns : String := "void"

/-- A callback. -/
structure EventDecl where
  name : String
  params : List ParamDecl
  deriving DecidableEq, Repr

/-- An enum. -/
structure EnumDecl where
  name : String
  underlying : String
  isFlags : Bool
  members : List EnumMember
  deriving DecidableEq, Repr

/-- The underlying type of an enum unless a document gives one. -/
def EnumDecl.defaultUnderlying : String := "int"

/-- A field; `count` names the sibling field that holds the count of elements of an array. -/
structure FieldDecl where
  name : String
  type : String
  count : Option String
  marshal : Option Marshal
  deriving DecidableEq, Repr

/-- A struct or class. -/
structure RecordDecl where
  name : String
  fields : List FieldDecl
  deriving DecidableEq, Repr

/-- The description of a native library. -/
structure Schema where
  output : OutputDecl
  aliases : List AliasDecl
  functions : List FunctionDecl
  events : List EventDecl
  enums : List EnumDecl
  structs : List RecordDecl
  classes : List RecordDecl
  deriving DecidableEq, Repr

end InteropGlue
