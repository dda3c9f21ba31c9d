import Mathlib.Data.List.Forall2
import InteropGlue.Schema.Encode
/-!
# Records as data

A record may be stated by a mapping or by a sequence. A mapping has its fields in any order and
among other entries, and a field with its default may be missing. A sequence has them in declaration
order, and fields with their defaults may be missing at its end. Which data state a record is said
here once for all records, from the list of their fields; what remains for each record is that list.

## Main Definitions

* `Reads`, `Writes` — a reader that takes whatever states a value to the value, and a writer that
  gives one datum that states it.
* `StatesOption`, `StatesList` — the data that state an absent or present value, and a list.
* `FieldForm` — a field: its key, when it may be missing, and what states it.
* `StatesRecord` — the data that state a record.

## Main Results

* `StatesRecord.exists_source` — the reader finds every field of a stated record where it looks.
* `RecordSource.Offers.required`, `RecordSource.Offers.withDefault` — what it then reads.
-/

namespace InteropGlue

/-! ### Plain data -/

/-- The reader takes every datum that states a value to this value. -/
def Reads {α : Type} (read : Datum → Reading α) (States : α → Datum → Prop) : Prop :=
  ∀ value datum, States value datum → read datum = .ok value

/-- The writer gives a datum that states the value. -/
def Writes {α : Type} (write : α → Datum) (States : α → Datum → Prop) : Prop :=
  ∀ value, States value (write value)

/-- A text states itself. -/
def StatesText (value : String) (datum : Datum) : Prop := datum = .text value

/-- A truth value states itself. -/
def StatesBoolean (value : Bool) (datum : Datum) : Prop := datum = .boolean value

/-- A natural number is stated by the integer. -/
def StatesNatural (value : Nat) (datum : Datum) : Prop := datum = .integer value

/-- An absent value is stated by null, any other one by what states it. -/
def StatesOption {α : Type} (States : α → Datum → Prop) : Option α → Datum → Prop
  | none, datum => datum = .null
  | some value, datum => States value datum

/-- A list is stated by the sequence of what states its elements. -/
def StatesList {α : Type} (States : α → Datum → Prop) (values : List α) (datum : Datum) : Prop :=
  ∃ items, datum = .sequence items ∧ List.Forall₂ States values items

theorem readText_reads : Reads readText StatesText := by
  rintro value datum rfl
  rfl

theorem readPath_reads : Reads readPath StatesText := by
  rintro value datum rfl
  rfl

theorem readBoolean_reads : Reads readBoolean StatesBoolean := by
  rintro value datum rfl
  rfl

theorem readUInt32_reads : Reads readUInt32 fun size => StatesNatural size.toNat := by
  rintro size datum rfl
  have bound : (size.toNat : Int) < UInt32.size := by exact_mod_cast size.toNat_lt
  rw [readUInt32, if_pos ⟨Int.natCast_nonneg _, bound⟩, Int.toNat_natCast, UInt32.ofNat_toNat]

theorem readUInt16_reads : Reads readUInt16 fun index => StatesNatural index.toNat := by
  rintro index datum rfl
  have bound : (index.toNat : Int) < UInt16.size := by exact_mod_cast index.toNat_lt
  rw [readUInt16, if_pos ⟨Int.natCast_nonneg _, bound⟩, Int.toNat_natCast, UInt16.ofNat_toNat]

theorem readOption_reads {α : Type} {read : Datum → Reading α} {States : α → Datum → Prop}
    (reads : Reads read States) (notNull : ∀ value, ¬ States value .null) :
    Reads (readOption read) (StatesOption States) := by
  intro value datum states
  cases value with
  | none =>
    rw [StatesOption] at states
    rw [states]
    rfl
  | some value =>
    have some : readOption read datum = Option.some <$> read datum := by
      cases datum with
      | null => exact absurd states (notNull value)
      | _ => rfl
    rw [some, reads value datum states]
    rfl

theorem mapM_reads {α : Type} {read : Datum → Reading α} {States : α → Datum → Prop}
    (reads : Reads read States) {values : List α} {items : List Datum}
    (states : List.Forall₂ States values items) : items.mapM read = .ok values := by
  induction states with
  | nil => rfl
  | cons first _ ih =>
    rw [List.mapM_cons, reads _ _ first, ih]
    rfl

theorem readList_reads {α : Type} {read : Datum → Reading α} {States : α → Datum → Prop}
    (reads : Reads read States) : Reads (readList read) (StatesList States) := by
  rintro values datum ⟨items, rfl, states⟩
  exact mapM_reads reads states

/-- One of a list of words, no two of which are the same, is read as what it means. -/
theorem readWord_reads {α : Type} {words : List (String × α)} {word : α → String}
    (known : ∀ value, words.lookup (word value) = some value) :
    Reads (readWord words) fun value => StatesText (word value) := by
  rintro value datum rfl
  simp [readWord, known]

theorem text_writes : Writes .text StatesText := fun _ => rfl

theorem boolean_writes : Writes .boolean StatesBoolean := fun _ => rfl

theorem uInt32_writes :
    Writes (fun size : UInt32 => .integer size.toNat) fun size => StatesNatural size.toNat :=
  fun _ => rfl

theorem uInt16_writes :
    Writes (fun index : UInt16 => .integer index.toNat) fun index => StatesNatural index.toNat :=
  fun _ => rfl

theorem word_writes {α : Type} {word : α → String} :
    Writes (fun value => .text (word value)) fun value => StatesText (word value) :=
  fun _ => rfl

theorem writeOption_writes {α : Type} {write : α → Datum} {States : α → Datum → Prop}
    (writes : Writes write States) : Writes (writeOption write) (StatesOption States) := by
  intro value
  cases value with
  | none => rfl
  | some value => exact writes value

theorem writeList_writes {α : Type} {write : α → Datum} {States : α → Datum → Prop}
    (writes : Writes write States) : Writes (writeList write) (StatesList States) := by
  intro values
  refine ⟨values.map write, rfl, ?_⟩
  rw [List.forall₂_map_right_iff, List.forall₂_same]
  exact fun value _ => writes value

/-! ### Fields -/

/-- A field of a record as data state it. -/
structure FieldForm where
  key : String
  /-- The field may be missing. -/
  Omissible : Prop
  States : Datum → Prop

namespace FieldForm

variable {α : Type}

/-- A field that must be present. -/
def required (key : String) (States : Datum → Prop) : FieldForm := ⟨key, False, States⟩

/-- A field that may be missing where it has its default. -/
def withDefault (key : String) (default value : α) (States : α → Datum → Prop) : FieldForm :=
  ⟨key, value = default, States value⟩

/-- A field that may be missing or null where it has no value. -/
def optional (key : String) (value : Option α) (States : α → Datum → Prop) : FieldForm :=
  withDefault key none value (StatesOption States)

/-- A list that may be missing where it is empty. -/
def list (key : String) (values : List α) (States : α → Datum → Prop) : FieldForm :=
  withDefault key [] values (StatesList States)

end FieldForm

/-- The data that state a record with the given fields, in declaration order. -/
inductive StatesRecord (fields : List FieldForm) : Datum → Prop
  /-- A mapping, whose keys are distinct as those of every mapping. Other keys may stand in it. -/
  | keyed {entries : List Entry} (distinct : (entries.map Prod.fst).Nodup)
    (each : ∀ field ∈ fields, (∃ datum, (field.key, datum) ∈ entries ∧ field.States datum) ∨
      field.key ∉ entries.map Prod.fst ∧ field.Omissible) : StatesRecord fields (.mapping entries)
  /-- A sequence of fields in order, up to some that have their defaults. -/
  | listed {stated omitted : List FieldForm} {items : List Datum}
    (split : fields = stated ++ omitted) (each : List.Forall₂ FieldForm.States stated items)
    (rest : ∀ field ∈ omitted, field.Omissible) : StatesRecord fields (.sequence items)

/-- A mapping with an entry for each field, in order, states the record. -/
theorem StatesRecord.spelled {fields : List FieldForm} {entries : List Entry}
    (distinct : (entries.map Prod.fst).Nodup)
    (each : List.Forall₂ (fun field entry => entry.1 = field.key ∧ field.States entry.2) fields
      entries) : StatesRecord fields (.mapping entries) := by
  have found : ∀ field ∈ fields, ∃ datum, (field.key, datum) ∈ entries ∧ field.States datum := by
    clear distinct
    induction each with
    | nil => simp
    | @cons field entry _ _ first _ ih =>
      rw [List.forall_mem_cons]
      refine ⟨⟨entry.2, first.1 ▸ List.mem_cons_self, first.2⟩, fun other isField => ?_⟩
      obtain ⟨datum, isEntry, states⟩ := ih other isField
      exact ⟨datum, List.mem_cons_of_mem _ isEntry, states⟩
  exact .keyed distinct fun field isField => .inl (found field isField)

/-! ### Reading a record -/

namespace RecordSource

/-- A source has what states a field at its place, or nothing where the field may be missing. -/
def Offers (source : RecordSource) (position : Nat) (field : FieldForm) : Prop :=
  (∃ datum, source.field? position field.key = some datum ∧ field.States datum) ∨
    source.field? position field.key = none ∧ field.Omissible

/-- A source offers fields from a position on. -/
def OffersFrom (source : RecordSource) : Nat → List FieldForm → Prop
  | _, [] => True
  | position, field :: fields =>
    source.Offers position field ∧ source.OffersFrom (position + 1) fields

variable {α : Type} {source : RecordSource} {position : Nat} {key : String} {value : α}
  {read : Datum → Reading α} {States : α → Datum → Prop}

theorem Offers.required (offers : source.Offers position (.required key (States value)))
    (reads : Reads read States) (shape : RecordShape) :
    source.required shape position key read = .ok value := by
  obtain ⟨datum, present, states⟩ | ⟨-, impossible⟩ := offers
  · simp only [RecordSource.required, show source.field? position key = some datum from present]
    exact reads value datum states
  · exact impossible.elim

theorem Offers.withDefault {default : α}
    (offers : source.Offers position (.withDefault key default value States))
    (reads : Reads read States) : source.withDefault position key default read = .ok value := by
  obtain ⟨datum, present, states⟩ | ⟨absent, isDefault⟩ := offers
  · rw [RecordSource.withDefault, show source.field? position key = some datum from present]
    exact reads value datum states
  · rw [RecordSource.withDefault, show source.field? position key = none from absent]
    exact congrArg Except.ok isDefault.symm

theorem Offers.optional {value : Option α}
    (offers : source.Offers position (.optional key value States)) (reads : Reads read States)
    (notNull : ∀ value, ¬ States value .null) : source.optional position key read = .ok value :=
  offers.withDefault (readOption_reads reads notNull)

theorem Offers.list {values : List α} (offers : source.Offers position (.list key values States))
    (reads : Reads read States) : source.list position key read = .ok values :=
  offers.withDefault (readList_reads reads)

end RecordSource

theorem lookup_of_mem {entries : List Entry} {key : String} {datum : Datum}
    (distinct : (entries.map Prod.fst).Nodup) (member : (key, datum) ∈ entries) :
    entries.lookup key = some datum := by
  obtain ⟨before, after, rfl⟩ := List.append_of_mem member
  refine List.lookup_eq_some_iff.mpr ⟨before, after, rfl, fun entry isBefore => ?_⟩
  rw [List.map_append, List.nodup_append] at distinct
  have apart := distinct.2.2 entry.1 (List.mem_map_of_mem isBefore) key (by simp)
  simpa using apart.symm

theorem lookup_of_notMem {entries : List Entry} {key : String}
    (absent : key ∉ entries.map Prod.fst) : entries.lookup key = none := by
  rw [List.lookup_eq_none_iff]
  intro entry member
  have apart : entry.1 ≠ key := fun same => absent (same ▸ List.mem_map_of_mem member)
  simpa using apart.symm

/-- In a mapping a field is found by its key, wherever it is looked for. -/
theorem offersFrom_keyed {entries : List Entry} (distinct : (entries.map Prod.fst).Nodup)
    {fields : List FieldForm}
    (each : ∀ field ∈ fields, (∃ datum, (field.key, datum) ∈ entries ∧ field.States datum) ∨
      field.key ∉ entries.map Prod.fst ∧ field.Omissible) (position : Nat) :
    (RecordSource.keyed entries).OffersFrom position fields := by
  induction fields generalizing position with
  | nil => trivial
  | cons field fields ih =>
    refine ⟨?_, ih (fun other member => each other (List.mem_cons_of_mem _ member)) _⟩
    obtain ⟨datum, member, states⟩ | ⟨absent, omissible⟩ := each field List.mem_cons_self
    · exact .inl ⟨datum, lookup_of_mem distinct member, states⟩
    · exact .inr ⟨lookup_of_notMem absent, omissible⟩

/-- Behind the end of a sequence no field is found. -/
theorem offersFrom_omitted {items : List Datum} {omitted : List FieldForm}
    (rest : ∀ field ∈ omitted, field.Omissible) {position : Nat}
    (behind : items.length ≤ position) :
    (RecordSource.listed items).OffersFrom position omitted := by
  induction omitted generalizing position with
  | nil => trivial
  | cons field omitted ih =>
    refine ⟨.inr ⟨List.getElem?_eq_none behind, rest field List.mem_cons_self⟩, ?_⟩
    exact ih (fun other member => rest other (List.mem_cons_of_mem _ member)) (by omega)

/-- In a sequence a field is found by its position, behind the items of the fields before. -/
theorem offersFrom_listed {stated omitted : List FieldForm} {items : List Datum}
    (each : List.Forall₂ FieldForm.States stated items)
    (rest : ∀ field ∈ omitted, field.Omissible) (before : List Datum) :
    (RecordSource.listed (before ++ items)).OffersFrom before.length (stated ++ omitted) := by
  induction each generalizing before with
  | nil => exact offersFrom_omitted rest (by simp)
  | @cons field datum stated items states _ ih =>
    refine ⟨.inl ⟨datum, by simp [RecordSource.field?], states⟩, ?_⟩
    have := ih (before ++ [datum])
    simpa using this

/-- The reader finds every field of a stated record where it looks for it. -/
theorem StatesRecord.exists_source {fields : List FieldForm} {datum : Datum}
    (states : StatesRecord fields datum) (shape : RecordShape) :
    ∃ source, RecordSource.ofDatum shape datum = .ok source ∧ source.OffersFrom 0 fields := by
  cases states with
  | @keyed entries distinct each => exact ⟨.keyed entries, rfl, offersFrom_keyed distinct each 0⟩
  | @listed stated omitted items split each rest =>
    exact ⟨.listed items, rfl, split ▸ offersFrom_listed each rest []⟩

end InteropGlue
