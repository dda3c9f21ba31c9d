import InteropGlue.Schema.Datum
import InteropGlue.Text.Quoted
/-!
# Shape faults

What is wrong with a tree of data that is not a schema, and the texts that say so.

## Main Definitions

* `Fault` — the faults.
* `Fault.message` — the text of a fault.
-/

namespace InteropGlue

/-- A way in which a tree of data fails to have the wanted shape. -/
inductive Fault
  /-- A required entry is absent. -/
  | missingField (key : String)
  /-- A datum of one sort stands where another is wanted. -/
  | wrongSort (found : Datum) (wanted : String)
  /-- An integer is outside the range of the wanted width. -/
  | outOfRange (value : Int) (wanted : String)
  /-- A word is none of the choices. -/
  | unknownWord (word : String) (choices : List String)
  /-- A record written as a sequence ends before a required field. -/
  | tooShort (length : Nat) (record : String) (size : Nat)

/-- A word between back quotes. -/
def Fault.tick (word : String) : String := "`" ++ word ++ "`"

/-- What a message calls a datum. A moment has parts, so it counts as a map. -/
def Datum.describe : Datum → String
  | .null => "null"
  | .boolean value => "boolean " ++ Fault.tick (if value then "true" else "false")
  | .integer value => "integer " ++ Fault.tick (toString value)
  | .float value => "floating point " ++ Fault.tick value.text
  | .text value => "string " ++ Text.quote value
  | .sequence _ => "sequence"
  | .moment _ | .mapping _ => "map"

/-- What a message calls a choice between words. -/
def Fault.describeChoices (choices : List String) : String :=
  match choices with
  | [first, second] => tick first ++ " or " ++ tick second
  | _ => "one of " ++ ", ".intercalate (choices.map tick)

/-- The text of a fault. -/
def Fault.message : Fault → String
  | .missingField key => "missing field " ++ tick key
  | .wrongSort found wanted => "invalid type: " ++ found.describe ++ ", expected " ++ wanted
  | .outOfRange value wanted =>
    "invalid value: integer " ++ tick (toString value) ++ ", expected " ++ wanted
  | .unknownWord word choices =>
    "unknown variant " ++ tick word ++ ", expected " ++ describeChoices choices
  | .tooShort length record size =>
    "invalid length " ++ toString length ++ ", expected struct " ++ record ++ " with " ++
      toString size ++ " elements"

end InteropGlue
