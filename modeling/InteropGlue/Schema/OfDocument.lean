import InteropGlue.Schema.Decode
import InteropGlue.Toml.Document
/-!
# Schemas of documents

A schema document is a text in the document format whose data have the shape of a schema.

## Main Definitions

* `DocumentFault` — why a text is no schema document.
* `Schema.ofDocument` — the schema of a text.

## Design Notes

An integer beyond 64 bits is not well-formed, but that shows only when data are asked for: where the
shape is right without it, a document may hold one under a key that means nothing.
-/

namespace InteropGlue

/-- Why a text is no schema document. -/
inductive DocumentFault
  /-- The text is not well-formed. -/
  | malformed
  /-- The data do not have the shape of a schema. -/
  | misshapen (fault : Fault)

/-- The schema of a text. -/
def Schema.ofDocument (document : String) : Except DocumentFault Schema :=
  match Toml.read? document with
  | none => .error .malformed
  | some datum =>
    match Schema.ofDatum datum with
    | .ok schema => .ok schema
    | .error fault =>
      if datum.hasWideInteger then .error .malformed else .error (.misshapen fault)

end InteropGlue
