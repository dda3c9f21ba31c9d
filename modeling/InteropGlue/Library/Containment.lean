import InteropGlue.Library.Kind
/-!
# Structs inside structs

A struct holds the structs of its named field types in place. Arrays and classes are references and
end the chain. A struct that holds itself, through any number of fields, has no layout.

## Main Definitions

* `Library.structOf?` — the struct that a type stands for.
* `Library.reaches`, `Library.reachesAny` — the search for a struct in a type, or in several types.
* `Library.containsByValue` — whether a value of a type holds a struct of a given name.

## Design Notes

The search looks into a struct once. What it has looked into in one field it passes over in the next
fields, so the visited names go through the whole search, and a search returns the names that it adds
to them. Looking into a struct takes its name from the declared names that are not visited, and none
of them is ever given back, so the search ends on every library, whatever cycles, repeated or missing
declarations it has.
-/

namespace InteropGlue

namespace Library

/-- The first struct with the name that a type is. An array is no struct. -/
def structOf? (lib : Library) (type : TypeRef) : Option Record := type.name?.bind lib.struct?

/-- The declared structs whose names are not visited. -/
def unvisited (lib : Library) (visited : List String) : List Record :=
  lib.structs.filter fun struct => struct.name ∉ visited

theorem unvisited_append (lib : Library) (met visited : List String) :
    lib.unvisited (met ++ visited) =
      (lib.unvisited visited).filter fun struct => struct.name ∉ met := by
  simp [unvisited, List.filter_filter]

theorem length_unvisited_append_le (lib : Library) (met visited : List String) :
    (lib.unvisited (met ++ visited)).length ≤ (lib.unvisited visited).length := by
  rw [unvisited_append]
  exact List.length_filter_le _ _

theorem length_unvisited_cons_lt {lib : Library} {type : TypeRef} {record : Record}
    {visited : List String} (found : lib.structOf? type = some record)
    (fresh : record.name ∉ visited) :
    (lib.unvisited (record.name :: visited)).length < (lib.unvisited visited).length := by
  obtain ⟨name, -, isFirst⟩ := Option.bind_eq_some_iff.mp found
  have declared : record ∈ lib.unvisited visited :=
    List.mem_filter.mpr ⟨List.mem_of_find?_eq_some isFirst, decide_eq_true fresh⟩
  rw [← List.singleton_append, unvisited_append, List.length_filter_lt_length_iff_exists]
  exact ⟨record, declared, by simp⟩

/-- What a search in a type says: whether the struct is found, and the names visited on the way. -/
structure Search where
  found : Bool
  met : List String

mutual

/-- Looks for a struct in a type: the type stands for the struct, or for one that holds it. Structs
with visited names are passed over. -/
def reaches (lib : Library) (target : String) (visited : List String) (type : TypeRef) : Search :=
  match _isStruct : lib.structOf? type with
  | none => ⟨false, []⟩
  | some record =>
    if record.name = target then ⟨true, []⟩
    else if record.name ∈ visited then ⟨false, []⟩
    else
      let inside := reachesAny lib target (record.name :: visited) (record.fields.map (·.type))
      ⟨inside.found, inside.met ++ [record.name]⟩
termination_by ((lib.unvisited visited).length, 0)
decreasing_by
  exact Prod.Lex.left _ _ (length_unvisited_cons_lt _isStruct ‹_›)

/-- Looks for a struct in one type after the other, until it is found. -/
def reachesAny (lib : Library) (target : String) (visited : List String) : List TypeRef → Search
  | [] => ⟨false, []⟩
  | type :: types =>
    let first := reaches lib target visited type
    if first.found then first
    else
      let rest := reachesAny lib target (first.met ++ visited) types
      ⟨rest.found, rest.met ++ first.met⟩
termination_by types => ((lib.unvisited visited).length, types.length + 1)
decreasing_by
  · exact Prod.Lex.right _ (Nat.succ_pos _)
  · rcases Nat.lt_or_eq_of_le (length_unvisited_append_le lib first.met visited) with fewer | same
    · exact Prod.Lex.left _ _ fewer
    · rw [same]
      exact Prod.Lex.right _ (by simp)

end

theorem reaches_of_none {lib : Library} {target : String} {visited : List String} {type : TypeRef}
    (noStruct : lib.structOf? type = none) :
    lib.reaches target visited type = ⟨false, []⟩ := by
  rw [reaches]
  split <;> simp_all

theorem reaches_of_some {lib : Library} {target : String} {visited : List String} {type : TypeRef}
    {record : Record} (isStruct : lib.structOf? type = some record) :
    lib.reaches target visited type =
      if record.name = target then ⟨true, []⟩
      else if record.name ∈ visited then ⟨false, []⟩
      else
        let inside := lib.reachesAny target (record.name :: visited) (record.fields.map (·.type))
        ⟨inside.found, inside.met ++ [record.name]⟩ := by
  rw [reaches]
  split
  · next noStruct => simp [noStruct] at isStruct
  · next other isOther =>
    obtain rfl : other = record := Option.some.inj (isOther.symm.trans isStruct)
    rfl

/-- A value of the type holds a struct with the name `target` in place: it is one, or a struct in it
holds one. -/
def containsByValue (lib : Library) (type : TypeRef) (target : String) : Bool :=
  (lib.reaches target [] type).found

end Library

end InteropGlue
