import InteropGlue.Schema.Datum
/-!
# Tables

A document defines its tables piece by piece: by headers, by headers of tables inside them, and by
dotted keys. A table is defined in one way only, and a key once.

* A header names a table that is new, or that only headers of tables inside it have mentioned.
* A header of an element appends to a list of tables that such headers have built.
* A header leads through tables of any origin, and through the last element of a list of tables.
* A dotted key leads through tables that dotted keys or deeper headers have mentioned, and its last
  part is put into a table that dotted keys have built.

## Main Definitions

* `Node` — a table under construction, or a finished value.
* `Node.assign` — a key put into a table.
* `Node.place` — a table put where a header says.
* `Node.toDatum` — the data of a table.
-/

namespace InteropGlue.Toml

/-- The origin of a table. -/
inductive Origin
  /-- Its own header. -/
  | header
  /-- Headers of tables inside it. -/
  | deeperHeader
  /-- Dotted keys. -/
  | dottedKey
  deriving DecidableEq, Repr

/-- A part of a document under construction. -/
inductive Node
  /-- A value that nothing can be added to. -/
  | value (value : Datum)
  | table (origin : Origin) (entries : List (String × Node))
  /-- A list of tables: the entries of its last element, and of those before, last first. -/
  | tables (last : List (String × Node)) (earlier : List (List (String × Node)))
  deriving Inhabited

/-- The entries of a table under construction. -/
abbrev Entries := List (String × Node)

namespace Node

/-- The entries with the node of a key changed, or added at the end. -/
def alter (key : String) (change : Option Node → Option Node) : Entries → Option Entries
  | [] => (change none).map fun node => [(key, node)]
  | (name, node) :: rest =>
    if name = key then (change (some node)).map fun node => (name, node) :: rest
    else (alter key change rest).map ((name, node) :: ·)

/-- The entries with a value under a dotted key. `mayHold` tells whether the key's last part may be
put into this table. -/
def assign (datum : Datum) : List String → Bool → Entries → Option Entries
  | [], _, _ => none
  | key :: path, mayHold, entries =>
    alter key (fun node? =>
      match path, node? with
      | [], none => if mayHold then some (.value datum) else none
      | [], some _ => none
      | _, none => (assign datum path true []).map (.table .dottedKey)
      | _, some (.table .dottedKey inner) =>
        (assign datum path true inner).map (.table .dottedKey)
      | _, some (.table .deeperHeader inner) =>
        (assign datum path false inner).map (.table .deeperHeader)
      | _, some (.tables last earlier) => (assign datum path false last).map (.tables · earlier)
      | _, some (.table .header _) | _, some (.value _) => none) entries

/-- The entries with all assignments made in order. -/
def assignAll (assignments : List (List String × Datum)) (entries : Entries) : Option Entries :=
  assignments.foldlM (fun entries (path, datum) => assign datum path true entries) entries

/-- The entries with the node that a header names changed. -/
def place (change : Option Node → Option Node) : List String → Entries → Option Entries
  | [], _ => none
  | key :: path, entries =>
    alter key (fun node? =>
      match path, node? with
      | [], _ => change node?
      | _, none => (place change path []).map (.table .deeperHeader)
      | _, some (.table origin inner) => (place change path inner).map (.table origin)
      | _, some (.tables last earlier) => (place change path last).map (.tables · earlier)
      | _, some (.value _) => none) entries

/-- The table that a header and the assignments under it make. -/
def defineTable (assignments : List (List String × Datum)) : Option Node → Option Node
  | none => (assignAll assignments []).map (.table .header)
  | some (.table .deeperHeader entries) => (assignAll assignments entries).map (.table .header)
  | some _ => none

/-- The list of tables to which a header and the assignments under it append an element. -/
def defineElement (assignments : List (List String × Datum)) : Option Node → Option Node
  | none => (assignAll assignments []).map (.tables · [])
  | some (.tables last earlier) => (assignAll assignments []).map (.tables · (last :: earlier))
  | some _ => none

mutual

/-- The data of a node. -/
def toDatum : Node → Datum
  | .value datum => datum
  | .table _ entries => .mapping (entryData entries)
  | .tables last earlier =>
    .sequence ((Datum.mapping (entryData last) :: elementData earlier).reverse)
termination_by structural node => node

/-- The data of the entries of a table. -/
def entryData : List (String × Node) → List Entry
  | [] => []
  | entry :: rest => pairData entry :: entryData rest
termination_by structural entries => entries

/-- The data of an entry. -/
def pairData : String × Node → Entry
  | (key, node) => (key, node.toDatum)
termination_by structural entry => entry

/-- The data of the elements of a list of tables. -/
def elementData : List (List (String × Node)) → List Datum
  | [] => []
  | entries :: rest => .mapping (entryData entries) :: elementData rest
termination_by structural elements => elements

end

end Node

end InteropGlue.Toml
