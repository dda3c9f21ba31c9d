import InteropGlue.CSharp.Syntax
/-!
# Entries of arrangements

Blank lines and regions arrange the entries of a listing without adding or losing any. What a listing
holds is read off its parts.

## Main Definitions

* `Item.map`, `Section.map` — items and parts with their entries changed.

## Main Results

* `Section.entries_region_spaced`, `Section.entries_region_trailed`, `Section.entries_regionOf` — a
  region holds the values it was made of.
* `Section.map_eq_self` — a part whose entries do not change stays as it is.
-/

namespace InteropGlue.CSharp

variable {α : Type}

@[simp] theorem Item.value?_entry (value : α) : (Item.entry value).value? = some value := rfl

@[simp] theorem Item.value?_blank : (Item.blank : Item α).value? = none := rfl

theorem Item.filterMap_spaced (values : List α) :
    (Item.spaced values).filterMap Item.value? = values := by
  fun_induction Item.spaced values with
  | case1 => rfl
  | case2 value => rfl
  | case3 value rest _ ih => simpa [List.filterMap_cons] using ih

theorem Item.filterMap_trailed (values : List α) :
    (Item.trailed values).filterMap Item.value? = values := by
  induction values with
  | nil => rfl
  | cons value rest ih => simpa [Item.trailed, List.filterMap_cons] using ih

namespace Section

@[simp] theorem entries_entry (value : α) : (entry value).entries = [value] := rfl

@[simp] theorem entries_blank : (blank : Section α).entries = [] := rfl

@[simp] theorem entries_region_spaced (title : String) (values : List α) :
    (region title (Item.spaced values)).entries = values := Item.filterMap_spaced values

@[simp] theorem entries_region_trailed (title : String) (values : List α) :
    (region title (Item.trailed values)).entries = values := Item.filterMap_trailed values

@[simp] theorem entries_regionOf (title : String) (values : List α) :
    (regionOf title values).entries = values := by
  induction values with
  | nil => rfl
  | cons value rest ih => simpa [regionOf, entries, items] using ih

end Section

/-! ### Entries changed in place -/

variable {β : Type} (f : α → β)

/-- An item with its entry changed. -/
def Item.map : Item α → Item β
  | .entry value => .entry (f value)
  | .blank => .blank

/-- A part with its entries changed. Blank lines and titles stay. -/
def Section.map : Section α → Section β
  | .item single => .item (single.map f)
  | .region title items => .region title (items.map (Item.map f))

theorem Item.map_trailed (values : List α) :
    (Item.trailed values).map (Item.map f) = Item.trailed (values.map f) := by
  rw [trailed, List.map_flatMap, trailed, List.flatMap_map]
  rfl

namespace Section

@[simp] theorem map_entry (value : α) : (entry value).map f = entry (f value) := rfl

@[simp] theorem map_blank : (blank : Section α).map f = blank := rfl

@[simp] theorem map_regionOf (title : String) (values : List α) :
    (regionOf title values).map f = regionOf title (values.map f) := by
  rw [regionOf, map, List.map_map, regionOf, List.map_map]
  rfl

/-- A part whose entries do not change stays as it is. -/
theorem map_eq_self {change : α → α} {part : Section α}
    (still : ∀ value ∈ part.entries, change value = value) : part.map change = part := by
  have items : ∀ items : List (Item α),
      (∀ value ∈ items.filterMap Item.value?, change value = value) →
        items.map (Item.map change) = items := by
    intro items still
    refine (List.map_congr_left fun item isItem => ?_).trans (List.map_id _)
    cases item with
    | blank => rfl
    | entry value =>
      exact congrArg Item.entry (still value (List.mem_filterMap.mpr ⟨_, isItem, rfl⟩))
  cases part with
  | item single => exact congrArg Section.item (List.cons.inj (items [single] still)).1
  | region title parts => exact congrArg (Section.region title) (items parts still)

end Section

end InteropGlue.CSharp
