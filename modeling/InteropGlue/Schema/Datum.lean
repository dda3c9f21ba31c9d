import InteropGlue.Decimal.Shortest
/-!
# Data trees

The value of a schema document before it has a schema's shape: what a document format can say, with
the entries of a mapping in the order of the document.

## Main Definitions

* `Datum` — a tree of data.
* `Datum.describe` — what a diagnostic calls a datum.
* `Datum.hasWideInteger` — whether an integer outside the signed 64-bit range occurs.
-/

namespace InteropGlue

/-- A tree of data. -/
inductive Datum
  | null
  | boolean (value : Bool)
  | integer (value : Int)
  | float (value : Decimal.Binary64)
  | text (value : String)
  /-- A date, a time, or both, as it was written. -/
  | moment (text : String)
  | sequence (items : List Datum)
  | mapping (entries : List (String × Datum))
  deriving Inhabited

/-- An entry of a mapping. -/
abbrev Entry := String × Datum

/-- An integer that 64 bits with a sign can hold. -/
def fitsSigned64 (value : Int) : Bool := -Nat.pow 2 63 ≤ value && value < Nat.pow 2 63

mutual

/-- An integer outside the signed 64-bit range occurs in the tree. -/
def Datum.hasWideInteger : Datum → Bool
  | .integer value => !fitsSigned64 value
  | .sequence items => Datum.anyWideInteger items
  | .mapping entries => Datum.anyWideEntry entries
  | .null | .boolean _ | .float _ | .text _ | .moment _ => false

/-- An integer outside the signed 64-bit range occurs in one of the trees. -/
def Datum.anyWideInteger : List Datum → Bool
  | [] => false
  | item :: rest => item.hasWideInteger || Datum.anyWideInteger rest

/-- An integer outside the signed 64-bit range occurs under one of the keys. -/
def Datum.anyWideEntry : List Entry → Bool
  | [] => false
  | (_, value) :: rest => value.hasWideInteger || Datum.anyWideEntry rest

end

end InteropGlue
