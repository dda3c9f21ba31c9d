import InteropGlue.Proofs.CSharp.Layout
import InteropGlue.Proofs.CSharp.Uses
import InteropGlue.Proofs.Glue.ApplicationSurface
import InteropGlue.Proofs.Glue.Members
import InteropGlue.Proofs.Glue.Targets
import Mathlib.Data.List.Count
import Mathlib.Data.List.Forall2
/-!
# Native surfaces implement the application surface

Each native surface overrides all that the application surface leaves abstract, in the same order
and under the same headers, and offers the entry points that its classes use. The two sides come
from different places: the abstract members are generated once, with the first target, and the
overriding ones for each target.

## Main Definitions

* `Member.Overrides` — a member is printed as the other one, with `override` for `abstract`.
* `TypeDecl.Implements` — a class overrides what its base leaves abstract, and nothing else.
* `Library.OffersEach` — a class of entry points has a delegate type and a property for each.
* `Library.Implemented` — what the classes of a native surface implement, offer and use.

## Main Results

* `Library.nativeFunctionsClass_implements`, `Library.forwarderClass_implements` — the two classes
  that implement the surface.
* `Library.uses_nativeFunctionsClass`, `Library.uses_nativeEventsClass` — the entry points that are
  used are those of the functions and of the registrations.
* `Library.mem_entryPointNames_of_uses` — a surface uses no entry point that it does not offer.
* `Library.surface_implemented` — every target of a file has a surface that implements the
  application surface.

## Design Notes

A class is compared with its base by the lines that are printed, so that no name has to be read back
from a line. Nothing is assumed of the library: it need not be accepted, and names may be any texts.
-/

namespace InteropGlue

open CSharp

/-! ### Overriding members -/

namespace CSharp

/-- A member that a deriving class has to override. -/
def Member.isAbstract : Member → Bool
  | .abstractMethod _ | .abstractEvent _ _ => true
  | _ => false

/-- A member that overrides one of the base. -/
def Member.isOverride : Member → Bool
  | .method modifiers _ _ | .event modifiers _ _ _ _ => modifiers == "public override"
  | _ => false

/-- An event. -/
def Member.isEvent : Member → Bool
  | .abstractEvent _ _ | .event _ _ _ _ _ => true
  | _ => false

/-- A property with a name. -/
def Member.isSlotNamed (name : String) : Member → Bool
  | .slot _ slotName => slotName == name
  | _ => false

/-- A delegate type with a name. -/
def Member.isDelegateNamed (name : String) : Member → Bool
  | .delegate delegateType => delegateType.signature.name == name
  | _ => false

/-- A member overrides a declared one: it is an event if that is one, and its header is the line of
that one with `override` for `abstract`, and a block for the semicolon. -/
def Member.Overrides (overriding declared : Member) : Prop :=
  overriding.isEvent = declared.isEvent ∧ ∃ text, ∀ indentation,
    declared.code.lines indentation = [⟨indentation, "public abstract " ++ text ++ ";"⟩] ∧
      (overriding.code.lines indentation).head? =
        some ⟨indentation, "public override " ++ text ++ " \x7b"⟩

/-- A class derives from a base and overrides, in order, what the base leaves abstract, and nothing
else. -/
structure TypeDecl.Implements (derived base : TypeDecl) : Prop where
  derives : derived.base = some base.name
  overrides : List.Forall₂ Member.Overrides (derived.members.filter Member.isOverride)
    (base.members.filter Member.isAbstract)

end CSharp

namespace Library

variable (lib : Library) (names : ClassNames) (target : Target)

theorem implementation_overrides (f : Function) :
    (lib.implementation target f).Overrides
      (.abstractMethod (lib.signature (.application target) f.name f)) := by
  refine ⟨rfl, (lib.signature (.application target) f.name f).text, fun indentation => ⟨rfl, ?_⟩⟩
  rw [implementation, Member.code, Code.lines, List.head?_cons]
  rfl

theorem eventMember_overrides (event : Event) (bodies : Block × Block) :
    (event.member "public override" bodies).Overrides
      (.abstractEvent event.handler.name event.name) := by
  have joined : ∀ modifiers : String, modifiers ++ " event " ++ event.handler.name ++ " " ++
      event.name = modifiers ++ " " ++ ("event " ++ event.handler.name ++ " " ++ event.name) := by
    intro modifiers
    have between : " event " = " " ++ "event " := rfl
    rw [between]
    simp only [String.append_assoc]
  refine ⟨rfl, "event " ++ event.handler.name ++ " " ++ event.name, fun indentation => ⟨?_, ?_⟩⟩
  · rw [Member.code, Code.ofLine, Code.lines, Code.lines]
    exact congrArg (fun text => [Line.mk indentation (text ++ ";")]) (joined "public abstract")
  · rw [Event.member, Member.code, Code.lines, List.head?_cons]
    exact congrArg (fun text => some (Line.mk indentation (text ++ " \x7b")))
      (joined "public override")

theorem dispose_overrides (body : Block) :
    (Member.method "public override" disposeSignature body).Overrides
      (.abstractMethod disposeSignature) :=
  ⟨rfl, disposeSignature.text, fun _ => ⟨rfl, rfl⟩⟩

/-! ### Classes that implement -/

/-- The class of functions overrides by its implementations, and by nothing else. -/
theorem overrides_nativeFunctionsClass :
    (lib.nativeFunctionsClass names target).members.filter Member.isOverride =
      lib.functions.map (lib.implementation target) := by
  rw [filter_eq_flatMap, flatMap_members_nativeFunctionsClass]
  change [] ++ (lib.functions.flatMap fun f => [lib.implementation target f]) ++
    (lib.structs.flatMap fun _ => []) ++ (lib.classes.flatMap fun _ => []) ++ [] = _
  simp only [flatMap_const_nil, List.nil_append, List.append_nil]
  exact List.map_eq_flatMap.symm

/-- The forwarder overrides by its events and by its end. -/
theorem overrides_forwarderClass :
    (lib.forwarderClass names target).members.filter Member.isOverride =
      lib.events.map (fun event => event.member "public override" event.forwardingAccessors) ++
        [.method "public override" disposeSignature
          (.ofSteps [.evaluate (.callOwn "DetachForwarders" [])])] := by
  rw [filter_eq_flatMap, flatMap_members_forwarderClass]
  change [] ++ (lib.events.flatMap fun _ => []) ++
    (lib.events.flatMap fun event =>
      [event.member "public override" event.forwardingAccessors]) ++
    (lib.events.flatMap fun _ => []) ++ (lib.events.flatMap fun _ => []) ++ [] ++
    [.method "public override" disposeSignature
      (.ofSteps [.evaluate (.callOwn "DetachForwarders" [])])] ++ [] = _
  simp only [flatMap_const_nil, List.nil_append, List.append_nil]
  rw [← List.map_eq_flatMap]

/-- The class of functions implements the abstract one. -/
theorem nativeFunctionsClass_implements :
    (lib.nativeFunctionsClass names target).Implements
      (lib.functionsClass names (.application target)) where
  derives := rfl
  overrides := by
    have declared : (lib.functionsClass names (.application target)).members.filter
        Member.isAbstract = (lib.functionsClass names (.application target)).members := by
      rw [members_functionsClass]
      exact List.filter_eq_self.mpr (List.forall_mem_map.mpr fun _ _ => rfl)
    rw [overrides_nativeFunctionsClass, declared, members_functionsClass, List.forall₂_map_left_iff,
      List.forall₂_map_right_iff, List.forall₂_same]
    exact fun f _ => lib.implementation_overrides target f

/-- The forwarder implements the abstract class of events. -/
theorem forwarderClass_implements :
    (lib.forwarderClass names target).Implements (lib.eventsClass names) where
  derives := rfl
  overrides := by
    have declared : (lib.eventsClass names).members.filter Member.isAbstract =
        (lib.eventsClass names).members := by
      rw [members_eventsClass, List.filter_eq_self, List.forall_mem_append, List.forall_mem_map]
      exact ⟨fun _ _ => rfl, by simp [Member.isAbstract]⟩
    rw [overrides_forwarderClass, declared, members_eventsClass]
    refine List.rel_append ?_ (.cons (dispose_overrides _) .nil)
    rw [List.forall₂_map_left_iff, List.forall₂_map_right_iff, List.forall₂_same]
    exact fun event _ => eventMember_overrides event _

/-! ### Entry points in use -/

section Uses

variable {owner : String} {target}

theorem uses_unwrapCall (value : Expr) : (unwrapCall value).uses owner = value.uses owner := by
  simp [unwrapCall, machineExpr, Expr.uses]

theorem uses_wrapCall (value : Expr) : (wrapCall value).uses owner = value.uses owner := by
  simp [wrapCall, machineExpr, Expr.uses]

theorem uses_callArgument (p : Param) : (lib.callArgument p).uses owner = [] := by
  rw [callArgument]
  split
  · split
    · rfl
    · exact uses_unwrapCall _
  · split
    · rfl
    · exact uses_unwrapCall _
  · split
    · rfl
    · exact uses_unwrapCall _
  · simp [Arg.uses, Expr.uses]
  · rfl

theorem uses_temporaries (f : Function) :
    (lib.temporaries target f).flatMap (Step.uses owner) = [] := by
  have unwrapped : ∀ p : Param,
      (Step.bind p.temporary (unwrapCall (.name p.name))).uses owner = [] :=
    fun p => uses_unwrapCall _
  rw [List.flatMap_eq_nil_iff]
  intro step member
  simp only [temporaries, List.mem_append, List.mem_map] at member
  rcases member with (⟨p, -, rfl⟩ | ⟨p, -, rfl⟩) | ⟨p, -, rfl⟩
  · rw [handleTemporary]
    split
    · exact unwrapped p
    · rfl
  · rw [structTemporary]
    split
    · exact unwrapped p
    · rfl
    · rfl
    · rfl
  · rw [classTemporary]
    split
    · exact unwrapped p
    · rfl

theorem uses_writeBacks (f : Function) :
    (lib.writeBacks target f).flatMap (Step.uses owner) = [] := by
  rw [List.flatMap_eq_nil_iff]
  intro step member
  simp only [writeBacks, List.mem_append, List.mem_map, List.mem_flatMap] at member
  rcases member with ⟨p, -, rfl⟩ | ⟨p, -, ofParam⟩
  · exact uses_wrapCall _
  · rw [classWriteBack] at ofParam
    split at ofParam <;> simp only [List.nil_append, List.cons_append, List.mem_cons,
      List.not_mem_nil, or_false] at ofParam
    · rcases ofParam with rfl | rfl <;> rfl
    · obtain rfl := ofParam
      rfl

theorem uses_returnSteps (f : Function) : (lib.returnSteps f).flatMap (Step.uses owner) = [] := by
  rw [returnSteps]
  split <;> rfl

/-- A function uses the entry point of its name, and no other. -/
theorem uses_implementation (f : Function) :
    (lib.implementation target f).uses "EntryPoints" = [f.name] := by
  have called : (lib.entryCall f).uses "EntryPoints" = [f.name] := by
    have args : (f.params.map lib.callArgument).flatMap (Arg.uses "EntryPoints") = [] := by
      rw [List.flatMap_map, List.flatMap_eq_nil_iff]
      exact fun p _ => lib.uses_callArgument p
    rw [entryCall]
    split <;> simp [Step.uses, Expr.uses, Expr.isName, Arg.usesAll_eq, args]
  have kept : (lib.keepAlives f).flatMap (Step.uses "EntryPoints") = [] := by
    rw [keepAlives, List.flatMap_map, List.flatMap_eq_nil_iff]
    exact fun _ _ => rfl
  rw [implementation, Member.uses, Block.uses_ofSteps, implementationSteps]
  simp [uses_temporaries, called, kept, uses_writeBacks, uses_returnSteps]

/-- Copying uses no collaborator, if the places that it copies between do not. -/
theorem uses_copyValue {type : TypeRef} (rule : CopyRule) {source dest : Expr} {count : Option Expr}
    (noSource : source.uses owner = []) (apart : source.isName owner = false)
    (noDest : dest.uses owner = []) (noCount : ∀ size ∈ count, size.uses owner = []) :
    (lib.copyValue rule source dest count type).uses owner = [] := by
  induction type generalizing rule source dest count with
  | named name =>
    have converted : (rule.convert source).uses owner = [] := by
      simp [CopyRule.convert, machineExpr, Expr.uses, noSource]
    rw [copyValue]
    split
    · simp [Step.uses, noDest, converted]
    · simp [Step.uses, noDest, converted]
    · split
      · simp [fillClass, Block.ifHolds, Block.uses, Step.uses, Expr.uses, Arg.usesAll, machineExpr,
          noSource, noDest]
      · simp [Step.uses, noDest, converted]
    · simp [Step.uses, noDest, noSource]
    · simp [Step.uses, noDest, noSource]
  | array element bound ih =>
    have noSize : (count.getD (.member source "Length")).uses owner = [] := by
      cases count with
      | none => simp [Expr.uses, apart, noSource]
      | some size => exact noCount size rfl
    have elements : (lib.copyValue rule.forElements (.element source (.name rule.indexName))
        (.element dest (.name rule.indexName)) none element).uses owner = [] :=
      ih rule.forElements (by simp [Expr.uses, noSource]) rfl (by simp [Expr.uses, noDest])
        (by simp)
    simp [copyValue, Block.ifHolds, Block.uses, Step.uses, Expr.uses, noSource, noDest, noSize,
      elements]

theorem uses_conversionRoutines (isClass : Bool) (record : Record) :
    (lib.conversionRoutines target isClass record).flatMap (Member.uses "EntryPoints") = [] := by
  have allocating : ∀ conversion,
      (lib.allocatingRoutine target conversion isClass record).uses "EntryPoints" = [] := by
    intro conversion
    cases isClass <;> rfl
  have copying : ∀ conversion,
      (lib.copyRoutine target conversion isClass record).uses "EntryPoints" = [] := by
    intro conversion
    rw [copyRoutine, Member.uses, Block.uses_concat, List.flatMap_map, List.flatMap_eq_nil_iff]
    intro field _
    refine uses_copyValue lib _ rfl rfl rfl fun size isCount => ?_
    obtain ⟨name, -, rfl⟩ := Option.map_eq_some_iff.mp isCount
    rfl
  simp [conversionRoutines, allocating, copying]

theorem uses_raiser (mode : Mode) (event : Event) : (lib.raiser mode event).uses owner = [] := by
  simp [raiser, Member.uses, Block.uses, Block.ifHolds, Step.uses, Expr.uses, Event.handlers,
    List.flatMap_map]

theorem uses_forwarder (event : Event) : (lib.forwarder target event).uses owner = [] := by
  have args : ∀ p, (lib.forwardedArgument p).uses owner = [] := by
    intro p
    rw [forwardedArgument]
    split
    · exact uses_wrapCall _
    · simp [Expr.uses]
    · rfl
  simp [forwarder, Member.uses, Step.uses, List.flatMap_map, args]

/-- An event of the native class uses its own registration, to register and to unregister. -/
theorem uses_nativeMember (event : Event) :
    (event.member "public" event.nativeAccessors).uses "EntryPoints" =
      [event.registration, event.registration] := rfl

theorem uses_collaboratorMembers (collaborator : Collaborator) (className type : String) :
    (collaboratorMembers collaborator className type).flatMap (Member.uses owner) = [] := rfl

theorem uses_scalarConversions (bothWays : Bool) :
    (scalarConversions target bothWays).flatMap (Member.uses "EntryPoints") = [] := by
  cases bothWays <;> rfl

end Uses

/-! ### Classes that use entry points -/

/-- The class of functions uses the entry points of the functions, each once and in order. -/
theorem uses_nativeFunctionsClass :
    (lib.nativeFunctionsClass names target).uses "EntryPoints" = lib.functions.map (·.name) := by
  rw [TypeDecl.uses, flatMap_members_nativeFunctionsClass]
  simp only [uses_collaboratorMembers, uses_implementation, uses_conversionRoutines,
    uses_scalarConversions, flatMap_const_nil, List.nil_append, List.append_nil]
  exact List.map_eq_flatMap.symm

/-- The native events class uses the registration of each event, twice. -/
theorem uses_nativeEventsClass :
    (lib.nativeEventsClass names target).uses "EntryPoints" =
      lib.events.flatMap fun event => [event.registration, event.registration] := by
  have delegates : ∀ declared, (Member.delegate declared).uses "EntryPoints" = [] := fun _ => rfl
  have fields : ∀ event : Event, event.nativeFields.flatMap (Member.uses "EntryPoints") = [] :=
    fun _ => rfl
  rw [TypeDecl.uses, flatMap_members_nativeEventsClass]
  simp only [uses_collaboratorMembers, delegates, fields, uses_nativeMember, uses_raiser,
    flatMap_const_nil, List.nil_append, List.append_nil]

/-- The class of entry points uses none. -/
theorem uses_entryPointsClass : (lib.entryPointsClass names target).uses "EntryPoints" = [] := by
  rw [TypeDecl.uses, flatMap_members_entryPointsClass]
  simp only [Member.uses, flatMap_const_nil, List.append_nil]

/-- The forwarder uses no entry point: it knows native events only. -/
theorem uses_forwarderClass : (lib.forwarderClass names target).uses "EntryPoints" = [] := by
  have fields : ∀ event : Event, event.forwardingFields.flatMap (Member.uses "EntryPoints") = [] :=
    fun _ => rfl
  have members : ∀ event : Event,
      (event.member "public override" event.forwardingAccessors).uses "EntryPoints" = [] :=
    fun _ => rfl
  have detach : lib.detachRoutine.uses "EntryPoints" = [] := by
    rw [detachRoutine, Member.uses, Block.uses_ofSteps, List.flatMap_assoc]
    exact flatMap_const_nil lib.events
  have dispose : (Member.method "public override" disposeSignature
      (.ofSteps [.evaluate (.callOwn "DetachForwarders" [])])).uses "EntryPoints" = [] := rfl
  rw [TypeDecl.uses, flatMap_members_forwarderClass]
  simp only [uses_collaboratorMembers, fields, members, uses_raiser, uses_forwarder, detach,
    dispose, uses_scalarConversions, flatMap_const_nil, List.append_nil]

/-- A record uses no entry point. -/
theorem uses_recordDecl (mode : Mode) (isClass : Bool) (record : Record) :
    (lib.recordDecl mode isClass record).uses "EntryPoints" = [] := by
  rw [TypeDecl.uses, members_recordDecl, List.flatMap_map, List.flatMap_eq_nil_iff]
  intro field _
  rw [fieldMember, initialValue?]
  split <;> rfl

/-! ### Entry points on offer -/

/-- A class has a delegate type and a property for each of some names, in order, and nothing
else. -/
def OffersEach (decl : TypeDecl) (entries : List String) : Prop :=
  ∃ delegates : List Delegate,
    delegates.map (·.signature.name) = entries.map pointerName ∧
      decl.members = delegates.map .delegate ++
        entries.map fun entry => .slot (pointerName entry) entry

theorem entryPointsClass_offers :
    OffersEach (lib.entryPointsClass names target) lib.entryPointNames := by
  refine ⟨lib.entryPointDelegates names target, ?_, lib.members_entryPointsClass names target⟩
  rw [entryPointDelegates, entryPointNames, List.map_append, List.map_append, List.map_map,
    List.map_map, List.map_map, List.map_map]
  rfl

/-- What is offered is offered as often as it is named. -/
theorem count_of_offersEach {decl : TypeDecl} {entries : List String}
    (offers : OffersEach decl entries) (entry : String) :
    decl.members.countP (Member.isSlotNamed entry) = entries.count entry ∧
      decl.members.countP (Member.isDelegateNamed (pointerName entry)) = entries.count entry := by
  obtain ⟨delegates, named, members⟩ := offers
  have noSlot : (delegates.map Member.delegate).countP (Member.isSlotNamed entry) = 0 := by
    rw [List.countP_map, List.countP_eq_zero]
    exact fun _ _ => Bool.false_ne_true
  have noDelegate : (entries.map fun entry => Member.slot (pointerName entry) entry).countP
      (Member.isDelegateNamed (pointerName entry)) = 0 := by
    rw [List.countP_map, List.countP_eq_zero]
    exact fun _ _ => Bool.false_ne_true
  have slots : (entries.map fun entry => Member.slot (pointerName entry) entry).countP
      (Member.isSlotNamed entry) = entries.count entry := by
    rw [List.countP_map]
    rfl
  have pointers : (delegates.map Member.delegate).countP
      (Member.isDelegateNamed (pointerName entry)) = entries.count entry := by
    calc
      _ = (delegates.map (·.signature.name)).count (pointerName entry) := by
        rw [List.countP_map, List.count_eq_countP, List.countP_map]
        rfl
      _ = (entries.map pointerName).count (pointerName entry) := by rw [named]
      _ = entries.count entry :=
        List.count_map_of_injective _ _ (fun _ _ => pointerName_injective) _
  rw [members, List.countP_append, List.countP_append, noSlot, noDelegate, slots, pointers]
  exact ⟨Nat.zero_add _, rfl⟩

/-- Every entry point that a native surface uses is one of the library. -/
theorem mem_entryPointNames_of_uses {decl : TypeDecl}
    (declared : .type decl ∈ (lib.nativeChapter names target).declarations) {entry : String}
    (used : entry ∈ decl.uses "EntryPoints") : entry ∈ lib.entryPointNames := by
  rw [entryPointNames, List.mem_append]
  simp only [declarations_nativeChapter, recordDecls, List.mem_append, List.mem_cons, List.mem_map,
    List.not_mem_nil, or_false, Declaration.type.injEq, exists_eq_right] at declared
  rcases declared with ((rfl | rfl) | ⟨record, -, rfl⟩ | ⟨record, -, rfl⟩) | rfl | rfl
  · rw [uses_entryPointsClass] at used
    cases used
  · rw [uses_nativeEventsClass, List.mem_flatMap] at used
    obtain ⟨event, isEvent, isRegistration⟩ := used
    simp only [List.mem_cons, List.not_mem_nil, or_false, or_self] at isRegistration
    exact .inr (isRegistration ▸ List.mem_map_of_mem isEvent)
  · rw [uses_recordDecl] at used
    cases used
  · rw [uses_recordDecl] at used
    cases used
  · exact .inl (lib.uses_nativeFunctionsClass names target ▸ used)
  · rw [uses_forwarderClass] at used
    cases used

/-! ### Surfaces that implement -/

/-- A file declares a type: the lines of the type stand together in the namespace, and those of each
of its members stand together among them. -/
structure DeclaresType (file : SourceFile) (decl : TypeDecl) : Prop where
  listed : .type decl ∈ file.declarations
  lines : decl.code.lines indentWidth <:+: file.code.lines 0
  members : ∀ member ∈ decl.members,
    member.code.lines (indentWidth + indentWidth) <:+: decl.code.lines indentWidth

theorem DeclaresType.of_mem {file : SourceFile} {decl : TypeDecl}
    (listed : .type decl ∈ file.declarations) : DeclaresType file decl where
  listed := listed
  lines := SourceFile.declaration_lines listed
  members _ := TypeDecl.member_lines

/-- The classes of a native surface implement those of the application surface, and find the entry
points that they use. -/
structure Implemented (file : SourceFile) : Prop where
  surface : lib.nativeChapter names target ∈ file.chapters
  declared : ∀ decl ∈
    [lib.functionsClass names (.application target), lib.eventsClass names,
      lib.entryPointsClass names target, lib.nativeEventsClass names target,
      lib.nativeFunctionsClass names target, lib.forwarderClass names target],
    DeclaresType file decl
  functions : (lib.nativeFunctionsClass names target).Implements
    (lib.functionsClass names (.application target))
  events : (lib.forwarderClass names target).Implements (lib.eventsClass names)
  /-- The entry points are those of the functions, followed by those of the events. -/
  entryPoints : OffersEach (lib.entryPointsClass names target)
    (lib.functions.map (·.name) ++ lib.events.map fun event => "Set" ++ event.name)
  /-- What is used is declared, and as often as it is named. -/
  used : ∀ decl, .type decl ∈ (lib.nativeChapter names target).declarations →
    ∀ entry ∈ decl.uses "EntryPoints",
      0 < lib.entryPointNames.count entry ∧
        (lib.entryPointsClass names target).members.countP (Member.isSlotNamed entry) =
          lib.entryPointNames.count entry ∧
        (lib.entryPointsClass names target).members.countP
          (Member.isDelegateNamed (pointerName entry)) = lib.entryPointNames.count entry

/-- Every target of a file has a surface that implements the application surface. -/
theorem surface_implemented (output : OutputDecl) (aliases : List AliasDecl) {target : Target}
    (listed : target ∈ output.targets) :
    ∃ file, lib.sourceFile? output aliases = some file ∧
      lib.source output aliases = .ok (Line.textOf (file.code.lines 0)) ∧
      lib.Implemented ⟨output.library⟩ target file := by
  obtain ⟨first, -, isFile⟩ := lib.sourceFile?_of_targets output aliases
    (List.ne_nil_of_mem listed)
  refine ⟨_, isFile, ?_, ?_⟩
  · rw [source, isFile]
    exact congrArg Except.ok (Code.text_eq _)
  rw [applicationChapter_target lib first target]
  have isSurface : lib.nativeChapter ⟨output.library⟩ target ∈
      output.targets.eraseDups.map (lib.nativeChapter ⟨output.library⟩) :=
    List.mem_map_of_mem (List.mem_eraseDups.mpr listed)
  refine
    { surface := List.mem_cons_of_mem _ isSurface
      declared := fun decl member => .of_mem ?_
      functions := lib.nativeFunctionsClass_implements _ target
      events := lib.forwarderClass_implements _ target
      entryPoints := lib.entryPointsClass_offers _ target
      used := fun decl declared entry used => ⟨?_, ?_⟩ }
  · rw [SourceFile.declarations, List.flatMap_cons, List.mem_append,
      declarations_applicationChapter, List.mem_flatMap]
    simp only [List.mem_cons, List.not_mem_nil, or_false] at member
    rcases member with rfl | rfl | native
    · exact .inl (by simp)
    · exact .inl (by simp)
    · refine .inr ⟨_, isSurface, ?_⟩
      rw [declarations_nativeChapter]
      rcases native with rfl | rfl | rfl | rfl <;> simp
  · exact List.count_pos_iff.mpr (lib.mem_entryPointNames_of_uses _ target declared used)
  · exact count_of_offersEach (lib.entryPointsClass_offers _ target) entry

end Library

/-! ### A surface of two targets -/

namespace Sample

/-- A library that asks for a name, and is told of a change of it. -/
def naming : Library :=
  { Library.empty with
    functions :=
      [⟨"GetName", .named "bool",
        [⟨"vmid", .named "int", .input, none⟩, ⟨"source", .named handleType, .input, none⟩,
          ⟨"name", .named "StringBuilder", .buffer, some ⟨"LPWStr", some 512, none⟩⟩],
        some ⟨"Bool", none, none⟩⟩]
    events :=
      [⟨"NameChanged", ⟨"NameChangedEventHandler", .named "void",
        [⟨"vmid", .named "int", .input, none⟩, ⟨"source", .named handleType, .input, none⟩],
        none⟩⟩] }

/-- A file for both targets. -/
def bothTargets : OutputDecl :=
  { namespaceName := "Naming", library := "Naming", file := "Naming.cs", license := none
    usings := []
    targets := [.modern, .legacy, .modern] }

theorem naming_implemented :
    Target.legacy ∈ bothTargets.targets ∧ ∃ file, naming.sourceFile? bothTargets [] = some file ∧
      naming.source bothTargets [] = .ok (Line.textOf (file.code.lines 0)) ∧
      naming.Implemented ⟨"Naming"⟩ .legacy file := by
  have listed : Target.legacy ∈ bothTargets.targets := by decide
  exact ⟨listed, naming.surface_implemented bothTargets [] listed⟩

end Sample

end InteropGlue
