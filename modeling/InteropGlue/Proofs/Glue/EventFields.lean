import InteropGlue.Proofs.Glue.NamespaceNames
/-!
# Private fields of the event classes

Both classes of events keep their collaborator and what they know about each event in private
fields. The fields of an event share a stem, its name in lower camel case, and differ by fixed
endings. The endings are apart from each other and from the collaborator, so what can clash are the
stems: two that are the same, one that is the collaborator's, and one that is another with an
ending. The check of a library compares the names of events as they are written, and excludes none
of this.

## Main Definitions

* `TypeDecl.fieldNames` — the names of the fields of a class.
* `FieldsApart` — the three clashes of stems do not happen.

## Main Results

* `nodup_fieldsOf_iff` — when the fields around a collaborator are distinct.
* `Library.event_fields_distinct_iff` — when they are in the two classes, and that no two events
  then share a field.
-/

namespace InteropGlue

open CSharp

/-! ### Fields of a class -/

/-- The field that a member is. -/
def CSharp.Member.fieldName? : Member → Option String
  | .field _ _ _ name _ => some name
  | _ => none

/-- The names of the fields of a class. -/
def CSharp.TypeDecl.fieldNames (decl : TypeDecl) : List String :=
  decl.members.filterMap Member.fieldName?

/-- The fields of an event with a stem: the handlers, and what the endings say. -/
def fieldsOf (endings : List String) (stem : String) : List String :=
  ("_" ++ stem) :: endings.map ("_" ++ stem ++ ·)

/-- What follows the stem in the native events class. -/
def nativeEndings : List String := ["Callback", "Subscribers"]

/-- What follows the stem in the forwarder. -/
def forwardingEndings : List String := ["Subscribers"]

/-- The stem of the fields of an event. -/
def Event.stem (event : Event) : String := Text.lowerCamel event.name

namespace Library

variable (lib : Library)

/-- The stems of the fields of all events. -/
def eventStems : List String := lib.events.map Event.stem

theorem fieldNames_collaboratorMembers (collaborator : Collaborator) (className type : String) :
    (collaboratorMembers collaborator className type).filterMap Member.fieldName? =
      [collaborator.field] := rfl

theorem fieldNames_scalarConversions (target : Target) (bothWays : Bool) :
    (scalarConversions target bothWays).filterMap Member.fieldName? = [] := by
  cases bothWays <;> rfl

theorem filterMap_map_eq_nil {events : List Event} {member : Event → Member}
    (noField : ∀ event, (member event).fieldName? = none) :
    (events.map member).filterMap Member.fieldName? = [] := by
  rw [List.filterMap_map]
  exact List.filterMap_eq_nil_iff.mpr fun event _ => noField event

/-- The fields of the native events class. -/
theorem fieldNames_nativeEventsClass (names : ClassNames) (target : Target) :
    (lib.nativeEventsClass names target).fieldNames =
      "_entryPoints" :: lib.eventStems.flatMap (fieldsOf nativeEndings) := by
  rw [TypeDecl.fieldNames, members_nativeEventsClass]
  simp only [List.filterMap_append, fieldNames_collaboratorMembers, List.filterMap_flatMap]
  rw [filterMap_map_eq_nil fun _ => rfl, filterMap_map_eq_nil fun _ => rfl,
    filterMap_map_eq_nil fun _ => rfl, List.append_nil, List.append_nil, eventStems,
    List.flatMap_map]
  rfl

/-- The fields of the forwarder. -/
theorem fieldNames_forwarderClass (names : ClassNames) (target : Target) :
    (lib.forwarderClass names target).fieldNames =
      "_nativeEvents" :: lib.eventStems.flatMap (fieldsOf forwardingEndings) := by
  have disposal : ∀ body : Block, [lib.detachRoutine].filterMap Member.fieldName? ++
      [Member.method "public override" disposeSignature body].filterMap Member.fieldName? = [] :=
    fun _ => rfl
  rw [TypeDecl.fieldNames, members_forwarderClass]
  simp only [List.filterMap_append, fieldNames_collaboratorMembers, List.filterMap_flatMap,
    fieldNames_scalarConversions]
  rw [filterMap_map_eq_nil fun _ => rfl, filterMap_map_eq_nil fun _ => rfl,
    filterMap_map_eq_nil fun _ => rfl, eventStems, List.flatMap_map]
  simp only [List.append_assoc, List.append_nil, disposal]
  rfl

end Library

/-! ### Distinct fields -/

/-- No stem is that of two events, of the collaborator, or another stem with an ending. -/
structure FieldsApart (collaborator : String) (endings stems : List String) : Prop where
  distinct : stems.Nodup
  collaborator : collaborator ∉ stems
  endings : ∀ stem ∈ stems, ∀ other ∈ stems, ∀ ending ∈ endings, stem ≠ other ++ ending

instance : Std.Symm Apart := ⟨fun _ _ apart => ⟨apart.2, apart.1⟩⟩

section Distinct

variable {collaborator : String} {endings stems : List String}

/-- The fields of an event are its stem with each ending and without one. -/
theorem fieldsOf_eq (endings : List String) (stem : String) :
    fieldsOf endings stem = ("" :: endings).map ("_" ++ stem ++ ·) := by
  simp [fieldsOf]

theorem mem_fieldsOf {stem field : String} :
    field ∈ fieldsOf endings stem ↔ ∃ ending ∈ "" :: endings, "_" ++ stem ++ ending = field := by
  rw [fieldsOf_eq, List.mem_map]

/-- The fields of one event are distinct. -/
theorem nodup_fieldsOf (distinct : ("" :: endings).Nodup) (stem : String) :
    (fieldsOf endings stem).Nodup := by
  rw [fieldsOf_eq]
  exact distinct.map fun first second same => (String.append_right_inj _).mp same

/-- Two fields are the same only with the same ending, unless one stem is the other with an
ending. -/
theorem stem_of_same_field (apart : endings.Pairwise Apart) {stem other ending second : String}
    (isEnding : ending ∈ "" :: endings) (alsoEnding : second ∈ "" :: endings)
    (same : "_" ++ stem ++ ending = "_" ++ other ++ second) :
    stem = other ∨ (∃ ending ∈ endings, stem = other ++ ending) ∨
      ∃ ending ∈ endings, other = stem ++ ending := by
  rw [String.append_assoc, String.append_assoc, String.append_right_inj] at same
  rcases List.mem_cons.mp isEnding with rfl | isEnding
  · rw [String.append_empty] at same
    rcases List.mem_cons.mp alsoEnding with rfl | alsoEnding
    · exact .inl (same.trans String.append_empty)
    · exact .inr (.inl ⟨second, alsoEnding, same⟩)
  · rcases List.mem_cons.mp alsoEnding with rfl | alsoEnding
    · rw [String.append_empty] at same
      exact .inr (.inr ⟨ending, isEnding, same.symm⟩)
    · by_cases sameEnding : ending = second
      · subst sameEnding
        exact .inl ((String.append_left_inj _).mp same)
      · have apart : Apart ending second := apart.forall isEnding alsoEnding sameEnding
        exact absurd same (apart.append_ne stem other)

/-- Events with different stems share no field, unless one stem is the other with an ending. -/
theorem FieldsApart.disjoint (fields : FieldsApart collaborator endings stems)
    (apart : endings.Pairwise Apart) {stem other : String} (isStem : stem ∈ stems)
    (alsoStem : other ∈ stems) (different : stem ≠ other) :
    List.Disjoint (fieldsOf endings stem) (fieldsOf endings other) := by
  intro field isField alsoField
  obtain ⟨ending, isEnding, rfl⟩ := mem_fieldsOf.mp isField
  obtain ⟨second, alsoEnding, same⟩ := mem_fieldsOf.mp alsoField
  rcases stem_of_same_field apart isEnding alsoEnding same.symm with
    sameStem | ⟨added, isAdded, sameStem⟩ | ⟨added, isAdded, sameStem⟩
  · exact different sameStem
  · exact fields.endings stem isStem other alsoStem added isAdded sameStem
  · exact fields.endings other alsoStem stem isStem added isAdded sameStem

/-- No field of an event is the collaborator's, unless the stem is. -/
theorem FieldsApart.notMem_collaborator (fields : FieldsApart collaborator endings stems)
    (ofCollaborator : ∀ ending ∈ endings, Apart collaborator ending) :
    "_" ++ collaborator ∉ stems.flatMap (fieldsOf endings) := by
  intro isField
  obtain ⟨stem, isStem, isField⟩ := List.mem_flatMap.mp isField
  obtain ⟨ending, isEnding, same⟩ := mem_fieldsOf.mp isField
  rw [String.append_assoc, String.append_right_inj] at same
  rcases List.mem_cons.mp isEnding with rfl | isEnding
  · rw [String.append_empty] at same
    exact fields.collaborator (same ▸ isStem)
  · exact (ofCollaborator ending isEnding).ne_append stem same.symm

/-- The fields around a collaborator are distinct exactly if the stems are apart. -/
theorem nodup_fieldsOf_iff (distinct : ("" :: endings).Nodup) (apart : endings.Pairwise Apart)
    (ofCollaborator : ∀ ending ∈ endings, Apart collaborator ending) :
    (("_" ++ collaborator) :: stems.flatMap (fieldsOf endings)).Nodup ↔
      FieldsApart collaborator endings stems := by
  rw [List.nodup_cons, List.nodup_flatMap]
  constructor
  · rintro ⟨notCollaborator, -, disjoint⟩
    have stemField : ∀ stem, "_" ++ stem ∈ fieldsOf endings stem := fun _ => List.mem_cons_self
    have symmetric : Std.Symm (Function.onFun List.Disjoint (fieldsOf endings)) :=
      ⟨fun _ _ shares => List.disjoint_symm shares⟩
    refine ⟨disjoint.imp fun {first last} shares same => ?_, fun isStem => ?_,
      fun stem isStem other alsoStem ending isEnding same => ?_⟩
    · exact shares (stemField first) (same ▸ stemField last)
    · exact notCollaborator (List.mem_flatMap.mpr ⟨_, isStem, stemField _⟩)
    · have different : stem ≠ other := by
        intro sameStem
        have isEmpty : ending = "" := String.append_eq_left_iff.mp (same.symm.trans sameStem)
        exact (List.nodup_cons.mp distinct).1 (isEmpty ▸ isEnding)
      have alsoField : "_" ++ stem ∈ fieldsOf endings other :=
        mem_fieldsOf.mpr ⟨ending, List.mem_cons_of_mem _ isEnding, by
          rw [same, String.append_assoc]⟩
      exact disjoint.forall isStem alsoStem different (stemField stem) alsoField
  · intro fields
    refine ⟨fields.notMem_collaborator ofCollaborator, fun stem _ => nodup_fieldsOf distinct stem,
      ?_⟩
    exact fields.distinct.imp_of_mem fun isStem alsoStem different =>
      fields.disjoint apart isStem alsoStem different

end Distinct

namespace Library

variable (lib : Library)

/-- No two events share one of the given fields. -/
def FieldsOwned (fields : Event → List Member) : Prop :=
  ∀ event ∈ lib.events, ∀ other ∈ lib.events, event ≠ other →
    List.Disjoint ((fields event).filterMap Member.fieldName?)
      ((fields other).filterMap Member.fieldName?)

variable {lib}

theorem disjoint_of_fieldsApart {collaborator : String} {endings : List String}
    (apart : endings.Pairwise Apart) (fields : FieldsApart collaborator endings lib.eventStems) :
    ∀ event ∈ lib.events, ∀ other ∈ lib.events, event ≠ other →
      List.Disjoint (fieldsOf endings event.stem) (fieldsOf endings other.stem) := by
  intro event declared other alsoDeclared different
  refine fields.disjoint apart (List.mem_map_of_mem declared) (List.mem_map_of_mem alsoDeclared) ?_
  exact fun same => different
    (List.inj_on_of_nodup_map fields.distinct declared alsoDeclared same)

/-- In either class of events the private fields are distinct exactly if the stems of the events are
apart from each other and from the collaborator. Then no two events share a field. -/
theorem event_fields_distinct_iff (lib : Library) (names : ClassNames) (target : Target) :
    ((lib.nativeEventsClass names target).fieldNames.Nodup ↔
        FieldsApart "entryPoints" nativeEndings lib.eventStems) ∧
      ((lib.forwarderClass names target).fieldNames.Nodup ↔
        FieldsApart "nativeEvents" forwardingEndings lib.eventStems) ∧
      (FieldsApart "entryPoints" nativeEndings lib.eventStems →
        lib.FieldsOwned Event.nativeFields) ∧
      (FieldsApart "nativeEvents" forwardingEndings lib.eventStems →
        lib.FieldsOwned Event.forwardingFields) := by
  rw [fieldNames_nativeEventsClass, fieldNames_forwarderClass]
  refine ⟨?_, ?_, disjoint_of_fieldsApart (by decide), disjoint_of_fieldsApart (by decide)⟩
  · exact @nodup_fieldsOf_iff "entryPoints" _ _ (by decide) (by decide) (by decide)
  · exact @nodup_fieldsOf_iff "nativeEvents" _ _ (by decide) (by decide) (by decide)

end Library

namespace Sample

/-- A schema with two events, of which the first is called `Ping`. -/
def notifying (second : String) : Schema :=
  { output :=
      { namespaceName := "Demo", library := "Demo", file := "Demo.cs", license := none, usings := []
        targets := [.modern] }
    aliases := []
    functions := []
    events := [⟨"Ping", [⟨"vmid", "int", none, none⟩]⟩, ⟨second, [⟨"vmid", "int", none, none⟩]⟩]
    enums := []
    structs := []
    classes := [] }

/-- The fields of `Ping` and `Pong` are distinct. -/
theorem notifying_Pong_distinct :
    (notifying "Pong").toLibrary.Accepted ∧
      ((notifying "Pong").toLibrary.nativeEventsClass ⟨"Demo"⟩ .modern).fieldNames.Nodup ∧
      (notifying "Pong").toLibrary.FieldsOwned Event.nativeFields := by
  have accepted : (notifying "Pong").toLibrary.Accepted := by cbv
  have stems : (notifying "Pong").toLibrary.eventStems = ["ping", "pong"] := by
    decide +kernel
  have fields : FieldsApart "entryPoints" nativeEndings
      (notifying "Pong").toLibrary.eventStems := by
    rw [stems]
    exact ⟨by decide, by decide, by decide⟩
  obtain ⟨native, -, owned, -⟩ :=
    Library.event_fields_distinct_iff (notifying "Pong").toLibrary ⟨"Demo"⟩ .modern
  exact ⟨accepted, native.mpr fields, owned fields⟩

/-- The check accepts events `Ping` and `ping`, which share all their fields in both classes. -/
theorem notifying_ping_not_distinct :
    (notifying "ping").toLibrary.Accepted ∧
      ((notifying "ping").toLibrary.nativeEventsClass ⟨"Demo"⟩ .modern).fieldNames =
        ["_entryPoints", "_ping", "_pingCallback", "_pingSubscribers", "_ping", "_pingCallback",
          "_pingSubscribers"] ∧
      ¬ ((notifying "ping").toLibrary.nativeEventsClass ⟨"Demo"⟩ .modern).fieldNames.Nodup ∧
      ¬ ((notifying "ping").toLibrary.forwarderClass ⟨"Demo"⟩ .modern).fieldNames.Nodup := by
  have accepted : (notifying "ping").toLibrary.Accepted := by cbv
  have native : ((notifying "ping").toLibrary.nativeEventsClass ⟨"Demo"⟩ .modern).fieldNames =
      ["_entryPoints", "_ping", "_pingCallback", "_pingSubscribers", "_ping", "_pingCallback",
        "_pingSubscribers"] := by decide +kernel
  have forwarding : ((notifying "ping").toLibrary.forwarderClass ⟨"Demo"⟩ .modern).fieldNames =
      ["_nativeEvents", "_ping", "_pingSubscribers", "_ping", "_pingSubscribers"] := by
    decide +kernel
  rw [native, forwarding]
  exact ⟨accepted, rfl, by decide, by decide⟩

end Sample

end InteropGlue
