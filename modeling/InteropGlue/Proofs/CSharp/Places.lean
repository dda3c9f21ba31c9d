import InteropGlue.Proofs.CSharp.Evaluation
/-!
# Places in a state

A place is a variable or a part of one. What is stored there is read there, a second store replaces
the first, and all else in the state stays as it was.

## Main Definitions

* `PlaceOf` — a part of a variable, reached through members and elements.
* `State.Holds` — a place with a value, at which a value can be stored.

## Main Results

* `PlaceOf.read_store`, `PlaceOf.store_store` — storing at a place as a lens.
* `PlaceOf.read_set`, `PlaceOf.store_set` — other variables do not matter to a place.
* `State.leaving_store` — what a block stores outside its own variables outlives it.
-/

namespace InteropGlue.CSharp

variable {F : Framework}

theorem Slot.value?_eq_some_iff {slot : Slot F} {value : Value F} :
    slot.value? = some value ↔ slot = .holds value := by
  cases slot <;> simp [value?]

namespace State

variable {σ τ : State F} {name other : String} {slot next : Slot F}

/-! ### Variables -/

@[simp] theorem set_fixed : (σ.set name slot).fixed = σ.fixed := rfl

@[simp] theorem set_calls : (σ.set name slot).calls = σ.calls := rfl

@[simp] theorem locals_set_self : (σ.set name slot).locals name = slot := by
  simp [set]

theorem locals_set_of_ne (different : other ≠ name) :
    (σ.set name slot).locals other = σ.locals other := by
  simp [set, different]

@[simp] theorem set_set : (σ.set name slot).set name next = σ.set name next := by
  simp [set]

theorem set_comm (different : name ≠ other) :
    (σ.set name slot).set other next = (σ.set other next).set name slot := by
  simp only [set]
  rw [Function.update_comm different]

theorem set_self (same : σ.locals name = slot) : σ.set name slot = σ := by
  rw [set, ← same, Function.update_eq_self]

theorem declare?_eq_some_iff :
    σ.declare? name slot = some τ ↔ σ.locals name = .absent ∧ τ = σ.set name slot := by
  rw [declare?]
  cases σ.locals name <;> simp [eq_comm]

theorem read_name : σ.read (.name name) = (σ.locals name).value? := by
  rw [read]

theorem read_name_eq_some_iff {value : Value F} :
    σ.read (.name name) = some value ↔ σ.locals name = .holds value := by
  rw [read_name, Slot.value?_eq_some_iff]

theorem store_name {value : Value F} (present : σ.locals name ≠ .absent) :
    σ.store (.name name) value = some (σ.set name (.holds value)) := by
  rw [store]
  split
  · exact absurd ‹_› present
  · rfl

/-! ### Parts -/

variable {owner array index : Expr} {value : Value F}

theorem read_member :
    σ.read (.member owner name) = (σ.read owner).bind (·.member name) := by
  rw [read]
  rfl

theorem read_member_eq_some_iff :
    σ.read (.member owner name) = some value ↔
      ∃ whole, σ.read owner = some whole ∧ whole.member name = some value := by
  rw [read_member, Option.bind_eq_some_iff]

theorem store_member_eq_some_iff :
    σ.store (.member owner name) value = some τ ↔
      ∃ whole updated, σ.read owner = some whole ∧ whole.withMember name value = some updated ∧
        σ.store owner updated = some τ := by
  simp only [store, Option.bind_eq_bind, Option.bind_eq_some_iff]
  tauto

theorem read_element_eq_some_iff :
    σ.read (.element array index) = some value ↔
      ∃ position whole, (σ.read index).bind Value.index? = some position ∧
        σ.read array = some whole ∧ whole.element position = some value := by
  simp only [read, Option.bind_eq_bind, Option.bind_eq_some_iff]
  tauto

theorem store_element_eq_some_iff :
    σ.store (.element array index) value = some τ ↔
      ∃ position whole updated, (σ.read index).bind Value.index? = some position ∧
        σ.read array = some whole ∧ whole.withElement position value = some updated ∧
          σ.store array updated = some τ := by
  simp only [store, Option.bind_eq_bind, Option.bind_eq_some_iff]
  tauto

/-! ### Leaving a block -/

theorem leaving_set (declared : τ.locals name = .absent) :
    (σ.set name slot).leaving τ = σ.leaving τ := by
  simp only [leaving, set_fixed, set_calls, State.mk.injEq, and_self, and_true]
  funext other
  by_cases same : other = name
  · simp [same, declared]
  · rw [locals_set_of_ne same]

/-- A block that declared nothing is left as it is. -/
theorem leaving_of_absent (same : ∀ name, τ.locals name = .absent → σ.locals name = .absent) :
    σ.leaving τ = σ := by
  rcases σ with ⟨locals, fixed, calls⟩
  simp only [leaving, State.mk.injEq, and_true]
  funext other
  split
  · rename_i absent
    exact (same other absent).symm
  · rfl

theorem set_leaving (present : σ.locals name ≠ .absent) :
    (σ.set name slot).leaving σ = σ.set name slot := by
  refine leaving_of_absent fun other absent => ?_
  rw [locals_set_of_ne, absent]
  rintro rfl
  exact present absent

end State

/-! ### Places -/

/-- A part of a variable, reached through members and through elements at the given indices. -/
inductive PlaceOf (root : String) (indices : String → Prop) : Expr → Prop
  | name : PlaceOf root indices (.name root)
  | member {owner : Expr} {name : String} :
      PlaceOf root indices owner → PlaceOf root indices (.member owner name)
  | element {array : Expr} {index : String} :
      PlaceOf root indices array → indices index →
      PlaceOf root indices (.element array (.name index))

/-- A place holds a value, and a value can be stored there. -/
structure State.Holds (σ : State F) (place : Expr) (value : Value F) : Prop where
  read : σ.read place = some value
  store : σ.store place value = some σ

namespace PlaceOf

variable {root name : String} {indices larger : String → Prop} {place : Expr} {σ τ : State F}
  {value next : Value F} {slot : Slot F}

theorem isPlace (part : PlaceOf root indices place) : place.isPlace = true := by
  cases part <;> rfl

theorem mono (part : PlaceOf root indices place) (more : ∀ index, indices index → larger index) :
    PlaceOf root larger place := by
  induction part with
  | name => exact .name
  | member _ ih => exact .member ih
  | element _ isIndex ih => exact .element ih (more _ isIndex)

/-- Other variables do not matter to what is read at a place. -/
theorem read_set (part : PlaceOf root indices place) (apart : name ≠ root)
    (notIndex : ¬ indices name) : (σ.set name slot).read place = σ.read place := by
  induction part with
  | name => rw [State.read_name, State.read_name, State.locals_set_of_ne apart.symm]
  | member _ ih => simp only [State.read, ih]
  | @element array index _ isIndex ih =>
    have different : index ≠ name := fun same => notIndex (same ▸ isIndex)
    simp only [State.read, ih, State.locals_set_of_ne different]

/-- Storing at a place changes its variable only. -/
theorem store_eq_set (part : PlaceOf root indices place) (stored : σ.store place value = some τ) :
    σ.locals root ≠ .absent ∧ ∃ content, τ = σ.set root (.holds content) := by
  induction part generalizing value with
  | name =>
    rw [State.store] at stored
    split at stored
    · simp at stored
    · rename_i present
      exact ⟨fun absent => present absent, value, (Option.some.inj stored).symm⟩
  | member _ ih =>
    obtain ⟨_, _, -, -, stored⟩ := State.store_member_eq_some_iff.mp stored
    exact ih stored
  | element _ _ ih =>
    obtain ⟨_, _, _, -, -, -, stored⟩ := State.store_element_eq_some_iff.mp stored
    exact ih stored

/-- An index is read alike after storing at a place. -/
theorem index_of_store (part : PlaceOf root indices place) (notIndex : ¬ indices root)
    {index : String} (isIndex : indices index) (stored : σ.store place value = some τ) :
    τ.read (.name index) = σ.read (.name index) := by
  obtain ⟨-, content, rfl⟩ := part.store_eq_set stored
  have different : index ≠ root := fun same => notIndex (same ▸ isIndex)
  rw [State.read_name, State.locals_set_of_ne different, State.read_name]

/-- Another variable may be set before or after storing at a place. -/
theorem store_set (part : PlaceOf root indices place) (apart : name ≠ root)
    (notIndex : ¬ indices name) :
    (σ.set name slot).store place value = (σ.store place value).map (·.set name slot) := by
  induction part generalizing value with
  | name =>
    rw [State.store, State.store, State.locals_set_of_ne apart.symm]
    cases σ.locals root with
    | absent => rfl
    | unassigned => simp [State.set_comm apart]
    | holds content => simp [State.set_comm apart]
  | member owner ih =>
    simp only [State.store, owner.read_set apart notIndex, ih, Option.bind_eq_bind,
      Option.map_bind, Function.comp_def]
  | @element array index arrayPart isIndex ih =>
    have different : index ≠ name := fun same => notIndex (same ▸ isIndex)
    simp only [State.store, arrayPart.read_set apart notIndex, ih, Option.bind_eq_bind,
      Option.map_bind, Function.comp_def, State.read, State.locals_set_of_ne different]

/-- What is stored at a place is read there. -/
theorem read_store (part : PlaceOf root indices place) (notIndex : ¬ indices root)
    (stored : σ.store place value = some τ) : τ.read place = some value := by
  induction part generalizing value with
  | name =>
    rw [State.store] at stored
    split at stored
    · simp at stored
    · rw [← Option.some.inj stored, State.read_name, State.locals_set_self]
      rfl
  | member _ ih =>
    obtain ⟨_, updated, -, replaced, stored⟩ := State.store_member_eq_some_iff.mp stored
    exact State.read_member_eq_some_iff.mpr ⟨updated, ih stored, Value.member_withMember replaced⟩
  | element arrayPart isIndex ih =>
    obtain ⟨position, _, updated, isPosition, -, replaced, stored⟩ :=
      State.store_element_eq_some_iff.mp stored
    rw [← arrayPart.index_of_store notIndex isIndex stored] at isPosition
    exact State.read_element_eq_some_iff.mpr
      ⟨position, updated, isPosition, ih stored, Value.element_withElement replaced⟩

/-- A second value stored at a place replaces the first. -/
theorem store_store (part : PlaceOf root indices place) (notIndex : ¬ indices root)
    (stored : σ.store place value = some τ) : τ.store place next = σ.store place next := by
  induction part generalizing value next with
  | name =>
    rw [State.store] at stored
    split at stored
    · simp at stored
    · rename_i present
      obtain rfl := Option.some.inj stored
      rw [State.store, State.store, State.locals_set_self, State.set_set]
      cases found : σ.locals root with
      | absent => exact (present found).elim
      | unassigned => rfl
      | holds content => rfl
  | member owner ih =>
    obtain ⟨whole, updated, found, replaced, stored⟩ := State.store_member_eq_some_iff.mp stored
    simp only [State.store, owner.read_store notIndex stored, found, Option.bind_eq_bind,
      Option.bind_some, ih stored, Value.withMember_withMember replaced]
  | element arrayPart isIndex ih =>
    obtain ⟨position, whole, updated, isPosition, found, replaced, stored⟩ :=
      State.store_element_eq_some_iff.mp stored
    have sameIndex := arrayPart.index_of_store notIndex isIndex stored
    obtain ⟨indexValue, indexRead, indexPosition⟩ := Option.bind_eq_some_iff.mp isPosition
    simp only [State.store, sameIndex, indexRead, indexPosition,
      arrayPart.read_store notIndex stored, found, Option.bind_eq_bind, Option.bind_some, ih stored,
      Value.withElement_withElement replaced]

/-- Where one value can be stored, any other can. -/
theorem exists_store (part : PlaceOf root indices place) (stored : σ.store place value = some τ)
    (next : Value F) : ∃ τ', σ.store place next = some τ' := by
  induction part generalizing value next with
  | name =>
    obtain ⟨present, -⟩ := store_eq_set (@PlaceOf.name root indices) stored
    rw [State.store]
    split
    · rename_i absent
      exact absurd absent present
    · exact ⟨_, rfl⟩
  | member _ ih =>
    obtain ⟨whole, updated, found, replaced, stored⟩ := State.store_member_eq_some_iff.mp stored
    obtain ⟨other, otherReplaced⟩ := Value.exists_withMember replaced next
    obtain ⟨τ', otherStored⟩ := ih stored other
    exact ⟨τ', State.store_member_eq_some_iff.mpr ⟨whole, other, found, otherReplaced, otherStored⟩⟩
  | element _ _ ih =>
    obtain ⟨position, whole, updated, isPosition, found, replaced, stored⟩ :=
      State.store_element_eq_some_iff.mp stored
    obtain ⟨other, otherReplaced⟩ := Value.exists_withElement replaced next
    obtain ⟨τ', otherStored⟩ := ih stored other
    exact ⟨τ', State.store_element_eq_some_iff.mpr
      ⟨position, whole, other, isPosition, found, otherReplaced, otherStored⟩⟩

/-- Storing elsewhere does not change what is read at a place. -/
theorem read_of_store {otherRoot : String} {otherIndices : String → Prop} {otherPlace : Expr}
    (part : PlaceOf root indices place) (otherPart : PlaceOf otherRoot otherIndices otherPlace)
    (apart : otherRoot ≠ root) (notIndex : ¬ indices otherRoot)
    (stored : σ.store otherPlace value = some τ) : τ.read place = σ.read place := by
  obtain ⟨-, content, rfl⟩ := otherPart.store_eq_set stored
  exact part.read_set apart notIndex

/-- What a block stores outside its own variables outlives it. -/
theorem leaving_store (part : PlaceOf root indices place)
    (stored : σ.store place value = some τ) : τ.leaving σ = τ := by
  obtain ⟨present, content, rfl⟩ := part.store_eq_set stored
  exact State.set_leaving present

/-- A place holds what was stored there. -/
theorem holds_store (part : PlaceOf root indices place) (notIndex : ¬ indices root)
    (stored : σ.store place value = some τ) : τ.Holds place value where
  read := part.read_store notIndex stored
  store := (part.store_store notIndex stored).trans stored

/-- Storing what is read at a place changes nothing, unless it is a number: a length is read only. -/
theorem store_read (part : PlaceOf root indices place) (found : σ.read place = some value)
    (notNumber : ∀ type n, value ≠ .number type n) : σ.store place value = some σ := by
  induction part generalizing value with
  | name =>
    rw [State.read_name] at found
    rw [State.store]
    cases slot : σ.locals root with
    | absent => simp [slot, Slot.value?] at found
    | unassigned => simp [slot, Slot.value?] at found
    | holds content =>
      obtain rfl : content = value := by simpa [slot, Slot.value?] using found
      rw [State.set_self slot]
  | @member owner name _ ih =>
    obtain ⟨whole, wholeRead, isMember⟩ := State.read_member_eq_some_iff.mp found
    cases whole with
    | record type identity field =>
      obtain rfl : field name = value := by simpa [Value.member] using isMember
      exact State.store_member_eq_some_iff.mpr
        ⟨_, _, wholeRead, Value.withMember_member, ih wholeRead (by simp)⟩
    | array elementType identity length element =>
      simp only [Value.member, Option.ite_none_right_eq_some, Option.some.injEq] at isMember
      exact absurd isMember.2.symm (notNumber _ _)
    | object handle =>
      simp only [Value.member, Option.ite_none_right_eq_some, Option.some.injEq] at isMember
      exact absurd isMember.2.symm (notNumber _ _)
    | _ => simp [Value.member] at isMember
  | element _ _ ih =>
    obtain ⟨position, whole, isPosition, wholeRead, isElement⟩ :=
      State.read_element_eq_some_iff.mp found
    refine State.store_element_eq_some_iff.mpr
      ⟨position, whole, whole, isPosition, wholeRead, Value.withElement_element isElement, ?_⟩
    refine ih wholeRead ?_
    rintro type n rfl
    simp [Value.element] at isElement

end PlaceOf

namespace State.Holds

variable {σ : State F} {place index : Expr} {value whole : Value F}

/-- A variable holds its value. -/
theorem of_name {name : String} (found : σ.read (.name name) = some value) :
    σ.Holds (.name name) value where
  read := found
  store := by
    have holds := read_name_eq_some_iff.mp found
    rw [store_name (by simp [holds]), set_self holds]

/-- A field of a record at a place holds its value. -/
theorem member {type name : String} {identity : Identity} {field : String → Value F}
    (holds : σ.Holds place (.record type identity field)) :
    σ.Holds (.member place name) (field name) where
  read := read_member_eq_some_iff.mpr ⟨_, holds.read, rfl⟩
  store := store_member_eq_some_iff.mpr ⟨_, _, holds.read, Value.withMember_member, holds.store⟩

/-- An element of an array at a place holds its value. -/
theorem element {position : Nat} (holds : σ.Holds place whole)
    (isPosition : (σ.read index).bind Value.index? = some position)
    (isElement : whole.element position = some value) : σ.Holds (.element place index) value where
  read := read_element_eq_some_iff.mpr ⟨_, _, isPosition, holds.read, isElement⟩
  store := store_element_eq_some_iff.mpr
    ⟨_, _, _, isPosition, holds.read, Value.withElement_element isElement, holds.store⟩

end State.Holds

end InteropGlue.CSharp
