import InteropGlue.Library.Basic
import InteropGlue.Library.Primitive
import InteropGlue.Text.Blank
import InteropGlue.Text.Quoted
/-!
# Texts of types

A schema writes a type as a name with one `[]` for each array level and, where the value is passed
by reference, a final `&`. White space may surround the text and stand before each mark. A primitive
is read in its canonical spelling, and what is left after the marks is a name whatever it holds.

## Main Definitions

* `TypeRef.parse` — the reference a text stands for, and whether it is marked as by reference.
* `TypeRef.render` — the text of a reference.
* `TypeRef.describe` — the form in which a diagnostic shows a reference.

## Design Notes

The marks stand at the end, so the text is read from its end: the reading recurses on the reversed
characters and ends because each array mark takes two of them.
-/

namespace InteropGlue

namespace TypeRef

/-- The name with primitives in canonical spelling. -/
def canonicalName (name : String) : String := (canonicalPrimitive? name).getD name

/-- The reference whose text, without by-reference mark, is the reverse of the given characters. -/
def parseReversed : List Char → TypeRef
  | ']' :: '[' :: rest => .array (parseReversed (rest.dropWhile Text.isBlank)) none
  | name => .named (canonicalName (String.ofList name.reverse))
termination_by text => text.length
decreasing_by
  have := (List.dropWhile_sublist Text.isBlank (l := rest)).length_le
  simp only [List.length_cons]
  omega

/-- The reference a text stands for, and whether a mark passes it by reference. -/
def parse (text : String) : TypeRef × Bool :=
  match (Text.trim text.toList).reverse with
  | '&' :: rest => (parseReversed (rest.dropWhile Text.isBlank), true)
  | rest => (parseReversed rest, false)

/-- The innermost name followed by one mark for each array level. -/
def spelling : TypeRef → String
  | .named name => name
  | .array element _ => element.spelling ++ "[]"

/-- The text of a reference, with a mark if it is passed by reference. -/
def render (type : TypeRef) (byRef : Bool) : String :=
  if byRef then type.spelling ++ "&" else type.spelling

/-- The field that holds a count, as a diagnostic shows it. -/
def describeCount : Option String → String
  | none => "None"
  | some field => "Some(" ++ Text.quote field ++ ")"

/-- The structure of a reference, as a diagnostic shows it. -/
def describe : TypeRef → String
  | .named name => "Named(" ++ Text.quote name ++ ")"
  | .array element count =>
    "Array \x7b element: " ++ element.describe ++ ", count_field: " ++ describeCount count ++
      " \x7d"

end TypeRef

end InteropGlue
