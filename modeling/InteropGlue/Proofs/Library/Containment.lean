import Mathlib.Logic.Relation
import InteropGlue.Library.Containment
import InteropGlue.Proofs.Library.Names
/-!
# The search for contained structs is exact

A struct holds in place the structs that its fields name, where a name stands for the first struct
that has it. `Library.reaches` searches this graph, which may have cycles, with one list of visited
names for all branches. It finds a struct exactly when a chain of structs, each held by the one
before, leads to it. Nothing is asked of the library: names may be repeated, missing or part of any
cycle.

## Main Definitions

* `Library.Inlines` — a struct that has another one in a field.
* `Library.Embeds` — a chain of such steps from a type to a struct with a given name.
* `Library.Explores` — what a search has to say about the types that it looks into.
* `Library.Holds` — a struct holds another declared struct in place.

## Main Results

* `Library.explores_reaches` — every search says this, whatever has been visited before.
* `Library.containsByValue_iff_embeds` — a type contains a struct exactly when a chain leads to it.

## Design Notes

Where a struct is passed over because its name is visited, nothing is learned of it. What makes up
for this is that the met names are closed: all that a struct with such a name holds has been met as
well, or was visited before. The whole search starts with nothing visited, so no chain leaves the met
names.
-/

namespace InteropGlue.Library

open Relation

variable {lib : Library} {target : String} {visited : List String} {type : TypeRef}
  {record : Record}

/-! ### Chains -/

/-- A struct holds another one in place: one of its fields has it as a type. -/
def Inlines (lib : Library) (holder held : Record) : Prop :=
  ∃ field ∈ holder.fields, lib.structOf? field.type = some held

/-- A chain of structs, each held in place by the one before, leads from the struct that a type
stands for to a struct with a name. -/
def Embeds (lib : Library) (type : TypeRef) (target : String) : Prop :=
  ∃ first last, lib.structOf? type = some first ∧ ReflTransGen lib.Inlines first last ∧
    last.name = target

theorem Embeds.of_target (isStruct : lib.structOf? type = some record)
    (isTarget : record.name = target) : lib.Embeds type target :=
  ⟨record, record, isStruct, .refl, isTarget⟩

theorem Embeds.of_field (isStruct : lib.structOf? type = some record) {field : Field}
    (isField : field ∈ record.fields) (embeds : lib.Embeds field.type target) :
    lib.Embeds type target := by
  obtain ⟨first, last, isFirst, chain, isTarget⟩ := embeds
  exact ⟨record, last, isStruct, .head ⟨field, isField, isFirst⟩ chain, isTarget⟩

theorem structOf?_eq_some_iff :
    lib.structOf? type = some record ↔
      type = .named record.name ∧ lib.struct? record.name = some record := by
  rw [structOf?, Option.bind_eq_some_iff]
  simp only [TypeRef.name?_eq_some_iff]
  constructor
  · rintro ⟨name, rfl, found⟩
    obtain ⟨-, rfl⟩ := mem_of_struct?_eq_some found
    exact ⟨rfl, found⟩
  · rintro ⟨rfl, found⟩
    exact ⟨_, rfl, found⟩

/-! ### What a search says -/

/-- A type stands for no struct, or for a visited one that is not the target. -/
def Passed (lib : Library) (target : String) (visited : List String) (type : TypeRef) : Prop :=
  ∀ record, lib.structOf? type = some record → record.name ≠ target ∧ record.name ∈ visited

theorem Passed.mono {more : List String} (passed : lib.Passed target visited type)
    (subset : visited ⊆ more) : lib.Passed target more type :=
  fun record isStruct => ⟨(passed record isStruct).1, subset (passed record isStruct).2⟩

/-- All that is held by the structs with some names is passed. -/
def Closed (lib : Library) (target : String) (visited names : List String) : Prop :=
  ∀ holder, lib.struct? holder.name = some holder → holder.name ∈ names →
    ∀ field ∈ holder.fields, lib.Passed target visited field.type

theorem closed_nil : lib.Closed target visited [] := by simp [Closed]

theorem Closed.mono {more names : List String} (closed : lib.Closed target visited names)
    (subset : visited ⊆ more) : lib.Closed target more names :=
  fun holder found isName field isField => (closed holder found isName field isField).mono subset

theorem Closed.append {names others : List String} (closed : lib.Closed target visited names)
    (othersClosed : lib.Closed target visited others) :
    lib.Closed target visited (names ++ others) := by
  intro holder found isName
  rcases List.mem_append.mp isName with isOne | isOther
  · exact closed holder found isOne
  · exact othersClosed holder found isOther

/-- What a search in some types says: if the struct is found, a chain leads to it, and if it is not,
the types are passed and the met names are closed. -/
structure Explores (lib : Library) (target : String) (visited : List String)
    (types : List TypeRef) (search : Search) : Prop where
  sound : search.found = true → ∃ type ∈ types, lib.Embeds type target
  passed : search.found = false → ∀ type ∈ types, lib.Passed target (search.met ++ visited) type
  closed : search.found = false → lib.Closed target (search.met ++ visited) search.met

theorem explores_none (noStruct : lib.structOf? type = none) :
    lib.Explores target visited [type] ⟨false, []⟩ where
  sound := nofun
  passed _ := by simp [Passed, noStruct]
  closed _ := closed_nil

theorem explores_target (isStruct : lib.structOf? type = some record)
    (isTarget : record.name = target) : lib.Explores target visited [type] ⟨true, []⟩ where
  sound _ := ⟨type, List.mem_singleton_self type, .of_target isStruct isTarget⟩
  passed := nofun
  closed := nofun

theorem explores_visited (isStruct : lib.structOf? type = some record)
    (notTarget : record.name ≠ target) (isVisited : record.name ∈ visited) :
    lib.Explores target visited [type] ⟨false, []⟩ where
  sound := nofun
  passed _ := by simp [Passed, isStruct, notTarget, isVisited]
  closed _ := closed_nil

/-- A struct is looked into with its own name among the visited ones. -/
theorem explores_inside (isStruct : lib.structOf? type = some record)
    (notTarget : record.name ≠ target) {inside : Search}
    (explores : lib.Explores target (record.name :: visited) (record.fields.map (·.type)) inside) :
    lib.Explores target visited [type] ⟨inside.found, inside.met ++ [record.name]⟩ where
  sound isFound := by
    obtain ⟨_, isHeld, embeds⟩ := explores.sound isFound
    obtain ⟨field, isField, rfl⟩ := List.mem_map.mp isHeld
    exact ⟨type, List.mem_singleton_self type, embeds.of_field isStruct isField⟩
  passed _ := by simp [Passed, isStruct, notTarget]
  closed missed := by
    have same : inside.met ++ [record.name] ++ visited = inside.met ++ record.name :: visited := by
      simp
    rw [same]
    refine (explores.closed missed).append fun holder found isName field isField => ?_
    obtain rfl : holder = record := by
      rw [List.mem_singleton.mp isName, (structOf?_eq_some_iff.mp isStruct).2] at found
      exact (Option.some.inj found).symm
    exact explores.passed missed _ (List.mem_map_of_mem isField)

theorem explores_nil : lib.Explores target visited [] ⟨false, []⟩ where
  sound := nofun
  passed _ := by simp
  closed _ := closed_nil

theorem Explores.cons_of_found {types : List TypeRef} {first : Search}
    (explores : lib.Explores target visited [type] first) (isFound : first.found = true) :
    lib.Explores target visited (type :: types) first where
  sound _ := by
    obtain ⟨_, isType, embeds⟩ := explores.sound isFound
    exact ⟨_, List.mem_cons.mpr (.inl (List.mem_singleton.mp isType)), embeds⟩
  passed missed := by simp [isFound] at missed
  closed missed := by simp [isFound] at missed

/-- The names met in one type are visited in the next ones. -/
theorem Explores.cons {types : List TypeRef} {first rest : Search}
    (explores : lib.Explores target visited [type] first) (missed : first.found = false)
    (later : lib.Explores target (first.met ++ visited) types rest) :
    lib.Explores target visited (type :: types) ⟨rest.found, rest.met ++ first.met⟩ where
  sound isFound := by
    obtain ⟨other, isOther, embeds⟩ := later.sound isFound
    exact ⟨other, List.mem_cons_of_mem _ isOther, embeds⟩
  passed missedRest := by
    rw [List.append_assoc, List.forall_mem_cons]
    have passed := explores.passed missed type (List.mem_singleton_self type)
    exact ⟨passed.mono (List.subset_append_right _ _), later.passed missedRest⟩
  closed missedRest := by
    rw [List.append_assoc]
    have closed := explores.closed missed
    exact (later.closed missedRest).append (closed.mono (List.subset_append_right _ _))

/-- Every search says this, whatever has been visited before. -/
theorem explores_reaches (lib : Library) (target : String) :
    (∀ visited type, lib.Explores target visited [type] (lib.reaches target visited type)) ∧
      ∀ visited types, lib.Explores target visited types (lib.reachesAny target visited types) := by
  apply reaches.mutual_induct lib target
  case case1 =>
    intro visited type noStruct
    rw [reaches_of_none noStruct]
    exact explores_none noStruct
  case case2 =>
    intro visited type record isStruct isTarget
    rw [reaches_of_some isStruct, if_pos isTarget]
    exact explores_target isStruct isTarget
  case case3 =>
    intro visited type record isStruct notTarget isVisited
    rw [reaches_of_some isStruct, if_neg notTarget, if_pos isVisited]
    exact explores_visited isStruct notTarget isVisited
  case case4 =>
    intro visited type record isStruct notTarget fresh inside
    rw [reaches_of_some isStruct, if_neg notTarget, if_neg fresh]
    exact explores_inside isStruct notTarget inside
  case case5 =>
    intro visited
    rw [reachesAny]
    exact explores_nil
  case case6 =>
    intro visited type types first isFound explores
    rw [reachesAny, if_pos isFound]
    exact explores.cons_of_found isFound
  case case7 =>
    intro visited type types first notFound explores later
    rw [reachesAny, if_neg notFound]
    exact explores.cons (Bool.eq_false_iff.mpr notFound) later

/-- A search that starts with nothing visited finds a struct in a type exactly when a chain of
structs leads to its name. -/
theorem containsByValue_iff_embeds (type : TypeRef) (target : String) :
    lib.containsByValue type target = true ↔ lib.Embeds type target := by
  have explores := (explores_reaches lib target).1 [] type
  constructor
  · intro found
    obtain ⟨_, isType, embeds⟩ := explores.sound found
    exact List.mem_singleton.mp isType ▸ embeds
  · rintro ⟨first, last, isFirst, chain, isTarget⟩
    rw [← Bool.not_eq_false]
    intro missed
    have passed := explores.passed missed type (List.mem_singleton_self type)
    have closed := explores.closed missed
    simp only [List.append_nil] at passed closed
    -- No struct of the chain is the target, since a chain never leaves the met names.
    have all : lib.struct? last.name = some last ∧ last.name ≠ target ∧
        last.name ∈ (lib.reaches target [] type).met := by
      clear isTarget
      induction chain with
      | refl => exact ⟨(structOf?_eq_some_iff.mp isFirst).2, passed first isFirst⟩
      | @tail holder held _ step ih =>
        obtain ⟨field, isField, isHeld⟩ := step
        have heldPassed := closed holder ih.1 ih.2.2 field isField
        exact ⟨(structOf?_eq_some_iff.mp isHeld).2, heldPassed held isHeld⟩
    exact all.2.1 isTarget

instance (type : TypeRef) (target : String) : Decidable (lib.Embeds type target) :=
  decidable_of_iff _ (containsByValue_iff_embeds type target)

/-! ### Structs that hold themselves -/

/-- A struct of the first name has a field whose type is the declared struct of the second name. -/
def Holds (lib : Library) (holder held : String) : Prop :=
  (∃ struct ∈ lib.structs, struct.name = holder ∧ ∃ field ∈ struct.fields, field.type = .named held) ∧
    ∃ struct ∈ lib.structs, struct.name = held

/-- Where every struct has a name of its own, a name holds what the struct holds. -/
theorem holds_iff_inlines (distinct : lib.typeNames.Nodup) {holder : Record}
    (member : holder ∈ lib.structs) {name : String} :
    lib.Holds holder.name name ↔ ∃ held, lib.Inlines holder held ∧ held.name = name := by
  simp only [Holds, Inlines, structOf?_eq_some_iff]
  constructor
  · rintro ⟨⟨struct, isStruct, same, field, isField, type⟩, held, isHeld, rfl⟩
    obtain rfl : struct = holder :=
      List.inj_on_of_nodup_map (nodup_struct_names distinct) isStruct member same
    exact ⟨held, ⟨field, isField, type, struct?_of_mem distinct isHeld⟩, rfl⟩
  · rintro ⟨held, ⟨field, isField, type, found⟩, rfl⟩
    exact ⟨⟨holder, member, rfl, field, isField, type⟩, held, (mem_of_struct?_eq_some found).1, rfl⟩

theorem Inlines.mem {holder held : Record} (step : lib.Inlines holder held) :
    held ∈ lib.structs := by
  obtain ⟨field, -, isHeld⟩ := step
  exact (mem_of_struct?_eq_some (structOf?_eq_some_iff.mp isHeld).2).1

theorem mem_of_chain {first last : Record} (member : first ∈ lib.structs)
    (chain : ReflTransGen lib.Inlines first last) : last ∈ lib.structs := by
  rcases ReflTransGen.cases_tail chain with rfl | ⟨holder, -, step⟩
  · exact member
  · exact step.mem

/-- Where every struct has a name of its own, chains of names are chains of structs. -/
theorem reflTransGen_holds_iff (distinct : lib.typeNames.Nodup) {first : Record}
    (member : first ∈ lib.structs) {name : String} :
    ReflTransGen lib.Holds first.name name ↔
      ∃ last, ReflTransGen lib.Inlines first last ∧ last.name = name := by
  constructor
  · intro chain
    induction chain with
    | refl => exact ⟨first, .refl, rfl⟩
    | tail _ step ih =>
      obtain ⟨holder, chain, rfl⟩ := ih
      have isStruct := mem_of_chain member chain
      obtain ⟨held, inlines, rfl⟩ := (holds_iff_inlines distinct isStruct).mp step
      exact ⟨held, chain.tail inlines, rfl⟩
  · rintro ⟨last, chain, rfl⟩
    induction chain with
    | refl => exact .refl
    | tail chain step ih =>
      exact ih.tail ((holds_iff_inlines distinct (mem_of_chain member chain)).mpr ⟨_, step, rfl⟩)

/-- Where every struct has a name of its own, a chain of names comes back to a struct exactly when a
chain of structs leads back to it from one of its fields. -/
theorem transGen_holds_iff (distinct : lib.typeNames.Nodup) {struct : Record}
    (member : struct ∈ lib.structs) :
    TransGen lib.Holds struct.name struct.name ↔
      ∃ field ∈ struct.fields, lib.Embeds field.type struct.name := by
  rw [TransGen.head'_iff]
  constructor
  · rintro ⟨_, step, back⟩
    obtain ⟨held, inlines, rfl⟩ := (holds_iff_inlines distinct member).mp step
    obtain ⟨last, chain, same⟩ := (reflTransGen_holds_iff distinct inlines.mem).mp back
    obtain ⟨field, isField, isHeld⟩ := inlines
    exact ⟨field, isField, held, last, isHeld, chain, same⟩
  · rintro ⟨field, isField, held, last, isHeld, chain, same⟩
    have inlines : lib.Inlines struct held := ⟨field, isField, isHeld⟩
    exact ⟨held.name, (holds_iff_inlines distinct member).mpr ⟨held, inlines, rfl⟩,
      (reflTransGen_holds_iff distinct inlines.mem).mpr ⟨last, chain, same⟩⟩

/-- No field of a struct contains the struct exactly when no chain of holdings comes back to it. -/
theorem containsByValue_fields_iff (distinct : lib.typeNames.Nodup) {struct : Record}
    (member : struct ∈ lib.structs) :
    (∀ field ∈ struct.fields, lib.containsByValue field.type struct.name = false) ↔
      ¬ TransGen lib.Holds struct.name struct.name := by
  simp only [transGen_holds_iff distinct member, ← Bool.not_eq_true, containsByValue_iff_embeds,
    not_exists, not_and]

/-- No field contains its own struct exactly when no chain of holdings comes back to its start. -/
theorem containsByValue_eq_false_iff (distinct : lib.typeNames.Nodup) :
    (∀ struct ∈ lib.structs, ∀ field ∈ struct.fields,
        lib.containsByValue field.type struct.name = false) ↔
      ∀ name, ¬ TransGen lib.Holds name name := by
  constructor
  · intro apart name cycle
    obtain ⟨held, ⟨⟨struct, member, rfl, -⟩, -⟩, -⟩ := TransGen.head'_iff.mp cycle
    exact (containsByValue_fields_iff distinct member).mp (apart struct member) cycle
  · intro acyclic struct member
    exact (containsByValue_fields_iff distinct member).mpr (acyclic struct.name)

end InteropGlue.Library
