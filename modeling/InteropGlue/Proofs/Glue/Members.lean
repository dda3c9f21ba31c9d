import InteropGlue.Glue.Source
import InteropGlue.Proofs.CSharp.Arrangement
/-!
# Members of the generated classes

Blank lines and regions arrange the members of a class and the types of a surface, and add none.
What a class and a surface declare is read off here once, for all that is proved of them.

## Main Definitions

* `Library.collaboratorMembers` — the members of a class that has a collaborator.

## Main Results

* `Library.members_functionsClass`, `Library.members_eventsClass` — the abstract classes.
* `Library.members_entryPointsClass`, `Library.members_nativeEventsClass`,
  `Library.members_nativeFunctionsClass`, `Library.members_forwarderClass`,
  `Library.members_recordDecl` — the types of a native surface.
* `Library.mem_entryPointsClass_members`, `Library.mem_nativeEventsClass_members`,
  `Library.mem_forwarderClass_members` — what is a member of them.
* `Library.flatMap_members_nativeEventsClass` and its like — what is read off each member of a class
  is read off its parts in order.
* `Library.declarations_applicationChapter`, `Library.declarations_nativeChapter` — the surfaces.
* `Library.chapters_of_sourceFile?` — the file.
-/

namespace InteropGlue

open CSharp

namespace Library

variable (lib : Library) (names : ClassNames) (target : Target)

/-- The members of a class that has a collaborator. -/
def collaboratorMembers (collaborator : Collaborator) (className type : String) : List Member :=
  (collaborator.sections className type).flatMap Section.entries

theorem mem_collaboratorMembers {collaborator : Collaborator} {className type : String}
    {m : Member} :
    m ∈ collaboratorMembers collaborator className type ↔
      m = .field [] "private readonly" type collaborator.field none ∨
      m = .constructor className [plainParameter .byValue type collaborator.parameter]
        (.ofSteps [.assign (.name collaborator.field) (.name collaborator.parameter)]) ∨
      m = .property type collaborator.property (.name collaborator.field) := by
  simp [collaboratorMembers, Collaborator.sections]

theorem members_functionsClass (mode : Mode) :
    (lib.functionsClass names mode).members =
      lib.functions.map fun f => .abstractMethod (lib.signature mode f.name f) := by
  rw [TypeDecl.members, functionsClass, List.flatMap_map, List.map_eq_flatMap]
  rfl

theorem members_eventsClass :
    (lib.eventsClass names).members =
      lib.events.map (fun event => .abstractEvent event.handler.name event.name) ++
        [.abstractMethod disposeSignature] := by
  rw [TypeDecl.members, eventsClass, List.flatMap_append, List.flatMap_map, List.map_eq_flatMap]
  rfl

theorem pointerName_injective {name other : String} (same : pointerName name = pointerName other) :
    name = other := by
  simpa [pointerName] using same

theorem members_entryPointsClass :
    (lib.entryPointsClass names target).members =
      (lib.entryPointDelegates names target).map .delegate ++
        lib.entryPointNames.map fun name => .slot (pointerName name) name := by
  simp [TypeDecl.members, entryPointsClass]

theorem members_nativeEventsClass :
    (lib.nativeEventsClass names target).members =
      collaboratorMembers .entryPoints (names.nativeEvents target) (names.entryPoints target) ++
        lib.events.map (fun event => .delegate (lib.handlerDelegate (.native target) event)) ++
        lib.events.flatMap Event.nativeFields ++
        lib.events.map (fun event => event.member "public" event.nativeAccessors) ++
        lib.events.map (lib.raiser (.native target)) := by
  simp [TypeDecl.members, nativeEventsClass, nativeEventSections, collaboratorMembers]

theorem members_nativeFunctionsClass :
    (lib.nativeFunctionsClass names target).members =
      collaboratorMembers .entryPoints (names.nativeFunctions target) (names.entryPoints target) ++
        lib.functions.map (lib.implementation target) ++
        lib.structs.flatMap (lib.conversionRoutines target false) ++
        lib.classes.flatMap (lib.conversionRoutines target true) ++
        scalarConversions target true := by
  simp [TypeDecl.members, nativeFunctionsClass, collaboratorMembers, scalarSection]

theorem members_forwarderClass :
    (lib.forwarderClass names target).members =
      collaboratorMembers .nativeEvents (names.forwarder target) (names.nativeEvents target) ++
        lib.events.flatMap Event.forwardingFields ++
        lib.events.map (fun event => event.member "public override" event.forwardingAccessors) ++
        lib.events.map (lib.raiser (.application target)) ++
        lib.events.map (lib.forwarder target) ++ [lib.detachRoutine] ++
        [.method "public override" disposeSignature
          (.ofSteps [.evaluate (.callOwn "DetachForwarders" [])])] ++
        scalarConversions target false := by
  simp [TypeDecl.members, forwarderClass, forwardingSections, collaboratorMembers, scalarSection]

theorem members_recordDecl (mode : Mode) (isClass : Bool) (record : Record) :
    (lib.recordDecl mode isClass record).members =
      record.fields.map (lib.fieldMember mode isClass) := by
  rw [TypeDecl.members, recordDecl, List.flatMap_map, List.map_eq_flatMap]
  rfl

/-! ### Membership -/

section Membership

variable {lib names target} {m : Member}

theorem mem_entryPointsClass_members :
    m ∈ (lib.entryPointsClass names target).members ↔
      (∃ delegate ∈ lib.entryPointDelegates names target, .delegate delegate = m) ∨
        ∃ name ∈ lib.entryPointNames, .slot (pointerName name) name = m := by
  rw [members_entryPointsClass, List.mem_append, List.mem_map, List.mem_map]

theorem mem_nativeEventsClass_members :
    m ∈ (lib.nativeEventsClass names target).members ↔
      m ∈ collaboratorMembers .entryPoints (names.nativeEvents target) (names.entryPoints target) ∨
      (∃ event ∈ lib.events, .delegate (lib.handlerDelegate (.native target) event) = m) ∨
      (∃ event ∈ lib.events, m ∈ event.nativeFields) ∨
      (∃ event ∈ lib.events, event.member "public" event.nativeAccessors = m) ∨
      ∃ event ∈ lib.events, lib.raiser (.native target) event = m := by
  simp only [members_nativeEventsClass, List.mem_append, List.mem_map, List.mem_flatMap, or_assoc]

theorem mem_forwarderClass_members :
    m ∈ (lib.forwarderClass names target).members ↔
      m ∈ collaboratorMembers .nativeEvents (names.forwarder target) (names.nativeEvents target) ∨
      (∃ event ∈ lib.events, m ∈ event.forwardingFields) ∨
      (∃ event ∈ lib.events, event.member "public override" event.forwardingAccessors = m) ∨
      (∃ event ∈ lib.events, lib.raiser (.application target) event = m) ∨
      (∃ event ∈ lib.events, lib.forwarder target event = m) ∨
      m = lib.detachRoutine ∨
      m = .method "public override" disposeSignature
        (.ofSteps [.evaluate (.callOwn "DetachForwarders" [])]) ∨
      m ∈ scalarConversions target false := by
  simp only [members_forwarderClass, List.mem_append, List.mem_map, List.mem_flatMap,
    List.mem_singleton, or_assoc]

end Membership

/-! ### What is read off members -/

section Parts

theorem filter_eq_flatMap {α : Type} (test : α → Bool) (values : List α) :
    values.filter test = values.flatMap fun value => if test value then [value] else [] := by
  induction values with
  | nil => rfl
  | cons value values ih =>
    rw [List.filter_cons, List.flatMap_cons, ← ih]
    split <;> rfl

theorem flatMap_const_nil {α β : Type} (values : List α) :
    values.flatMap (fun _ => ([] : List β)) = [] :=
  List.flatMap_eq_nil_iff.mpr fun _ _ => rfl

variable {β : Type} (part : Member → List β)

theorem flatMap_members_entryPointsClass :
    (lib.entryPointsClass names target).members.flatMap part =
      ((lib.entryPointDelegates names target).flatMap fun delegate => part (.delegate delegate)) ++
        lib.entryPointNames.flatMap fun name => part (.slot (pointerName name) name) := by
  rw [members_entryPointsClass, List.flatMap_append, List.flatMap_map, List.flatMap_map]

theorem flatMap_members_nativeEventsClass :
    (lib.nativeEventsClass names target).members.flatMap part =
      (collaboratorMembers .entryPoints (names.nativeEvents target)
          (names.entryPoints target)).flatMap part ++
        (lib.events.flatMap fun event =>
          part (.delegate (lib.handlerDelegate (.native target) event))) ++
        (lib.events.flatMap fun event => event.nativeFields.flatMap part) ++
        (lib.events.flatMap fun event => part (event.member "public" event.nativeAccessors)) ++
        lib.events.flatMap fun event => part (lib.raiser (.native target) event) := by
  simp only [members_nativeEventsClass, List.flatMap_append, List.flatMap_map, List.flatMap_assoc]

theorem flatMap_members_nativeFunctionsClass :
    (lib.nativeFunctionsClass names target).members.flatMap part =
      (collaboratorMembers .entryPoints (names.nativeFunctions target)
          (names.entryPoints target)).flatMap part ++
        (lib.functions.flatMap fun f => part (lib.implementation target f)) ++
        (lib.structs.flatMap fun record =>
          (lib.conversionRoutines target false record).flatMap part) ++
        (lib.classes.flatMap fun record =>
          (lib.conversionRoutines target true record).flatMap part) ++
        (scalarConversions target true).flatMap part := by
  simp only [members_nativeFunctionsClass, List.flatMap_append, List.flatMap_map,
    List.flatMap_assoc]

theorem flatMap_members_forwarderClass :
    (lib.forwarderClass names target).members.flatMap part =
      (collaboratorMembers .nativeEvents (names.forwarder target)
          (names.nativeEvents target)).flatMap part ++
        (lib.events.flatMap fun event => event.forwardingFields.flatMap part) ++
        (lib.events.flatMap fun event =>
          part (event.member "public override" event.forwardingAccessors)) ++
        (lib.events.flatMap fun event => part (lib.raiser (.application target) event)) ++
        (lib.events.flatMap fun event => part (lib.forwarder target event)) ++
        part lib.detachRoutine ++
        part (.method "public override" disposeSignature
          (.ofSteps [.evaluate (.callOwn "DetachForwarders" [])])) ++
        (scalarConversions target false).flatMap part := by
  simp only [members_forwarderClass, List.flatMap_append, List.flatMap_map, List.flatMap_assoc,
    List.flatMap_singleton]

end Parts

/-! ### Surfaces -/

theorem flatMap_entries_trailed {α : Type} (values : List α) :
    ((Item.trailed values).map Section.item).flatMap Section.entries = values := by
  induction values with
  | nil => rfl
  | cons value values ih =>
    have first : Item.trailed (value :: values) =
        .entry value :: .blank :: Item.trailed values := rfl
    rw [first, List.map_cons, List.map_cons, List.flatMap_cons, List.flatMap_cons, ih]
    rfl

theorem declarations_applicationChapter :
    (lib.applicationChapter names target).declarations =
      [.type (lib.functionsClass names (.application target)), .type (lib.eventsClass names)] ++
        lib.events.map (fun event => .delegate (lib.handlerDelegate (.application target) event)) ++
        (lib.enums.map (lib.enumDecl (.application target)) ++
          lib.recordDecls (.application target)).map .type := by
  simp only [Chapter.declarations, applicationChapter, List.flatMap_append, flatMap_entries_trailed]
  cases lib.events with
  | nil => rfl
  | cons event events => simp

theorem declarations_nativeChapter :
    (lib.nativeChapter names target).declarations =
      [.type (lib.entryPointsClass names target), .type (lib.nativeEventsClass names target)] ++
        (lib.recordDecls (.native target)).map .type ++
        [.type (lib.nativeFunctionsClass names target),
          .type (lib.forwarderClass names target)] := by
  have body : (lib.nativeChapter names target).body =
      [.entry (.type (lib.entryPointsClass names target)), .blank,
        .entry (.type (lib.nativeEventsClass names target)), .blank] ++
        (Item.trailed ((lib.recordDecls (.native target)).map .type)).map .item ++
        [.entry (.type (lib.nativeFunctionsClass names target)), .blank,
          .entry (.type (lib.forwarderClass names target))] := rfl
  rw [Chapter.declarations, body, List.flatMap_append, List.flatMap_append, flatMap_entries_trailed]
  rfl

/-- A file has the surface of the application and the native surfaces of its targets. -/
theorem chapters_of_sourceFile? {output : OutputDecl} {aliases : List AliasDecl} {file : SourceFile}
    (generated : lib.sourceFile? output aliases = some file) :
    ∃ target ∈ distinctTargets output.targets, file.chapters =
      lib.applicationChapter ⟨output.library⟩ target ::
        (distinctTargets output.targets).map (lib.nativeChapter ⟨output.library⟩) := by
  unfold sourceFile? at generated
  cases targets : distinctTargets output.targets with
  | nil =>
    rw [targets] at generated
    cases generated
  | cons first others =>
    rw [targets] at generated
    obtain rfl := Option.some.inj generated
    exact ⟨first, List.mem_cons_self, rfl⟩

end Library

end InteropGlue
