/-!
# Built-in type names

The primitives have a canonical spelling, which is the keyword of the generated language, and other
spellings that mean the same. One further name stands for the opaque object handle, and two names of
the framework need no declaration.

## Main Definitions

* `primitives` — canonical spellings with their other spellings.
* `canonicalPrimitive?` — the canonical spelling of a primitive name.
* `isIntegerPrimitive` — the primitives that can count elements.
* `handleType`, `frameworkTypes` — the names with a meaning of their own.
-/

namespace InteropGlue

/-- The primitives in canonical spelling, each with its other spellings. -/
def primitives : List (String × List String) :=
  [("void", ["Void"]), ("bool", ["Boolean"]), ("string", ["String"]), ("float", ["Single"]),
    ("double", ["Double"]), ("sbyte", ["SByte", "int8"]), ("byte", ["Byte", "uint8"]),
    ("short", ["Int16", "int16"]), ("ushort", ["UInt16", "uint16"]), ("int", ["Int32", "int32"]),
    ("uint", ["UInt32", "uint32"]), ("long", ["Int64", "int64"]), ("ulong", ["UInt64", "uint64"]),
    ("char", ["Char"])]

/-- The canonical spelling of a primitive, or `none` for any other name. -/
def canonicalPrimitive? (name : String) : Option String :=
  (primitives.find? fun entry => entry.1 == name || entry.2.contains name).map Prod.fst

/-- The primitives that hold integers, in canonical spelling. -/
def integerPrimitives : List String :=
  ["sbyte", "byte", "short", "ushort", "int", "uint", "long", "ulong"]

/-- An integer primitive in canonical spelling. -/
def isIntegerPrimitive (name : String) : Bool := integerPrimitives.contains name

/-- The name of the opaque object handle. -/
def handleType : String := "JavaObjectHandle"

/-- Types of the framework that need no declaration. -/
def frameworkTypes : List String := ["StringBuilder", "IntPtr"]

end InteropGlue
