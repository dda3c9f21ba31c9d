import InteropGlue.Proofs.Glue.Initialization
import InteropGlue.Proofs.Library.Meaning
/-!
# Constructors of classes

A new instance of a class makes new instances for its class fields first, whose constructors do the
same. The declarations say which constructor runs which: this ends for all classes exactly if no
class of the library starts with an instance of itself inside, in one or more steps, and for one
class exactly if it leads to no such class.

## Main Definitions

* `CSharp.Initializes` — a constructor runs another one for a field, as declared.
* `Library.Grounded` — a class that leads to no class with an instance of itself inside.

## Main Results

* `Machine.acc_of_construct?` — a constructor that gives a value has come to an end with all others
  that it runs.
* `Library.wellFounded_initializes_iff`, `Library.acc_initializes_iff` — when the constructors of a
  surface end, all of them or one.
* `Library.constructors_end_iff` — which classes of an accepted library can be made.

## Design Notes

That a constructor ends is that the relation is accessible there. The evaluator is a partial
fixpoint, so the constructors that give values are known by induction on its approximations, with no
condition on names. That they do give one also needs names that the compiler can tell apart.
-/

namespace InteropGlue

open CSharp Relation

/-! ### Relations that end -/

/-- Nothing that a relation ends at comes back to itself, and it ends at what comes next. -/
theorem not_transGen_of_acc {α : Type} {r : α → α → Prop} {a b : α}
    (ends : Acc (fun held holder => r holder held) a) (leads : ReflTransGen r a b) :
    ¬ TransGen r b b := by
  induction ends generalizing b with
  | intro a _ ih =>
    rcases leads.cases_head with rfl | ⟨next, step, rest⟩
    · intro cycle
      obtain ⟨next, step, back⟩ := TransGen.head'_iff.mp cycle
      exact ih next step back cycle
    · exact ih next step rest

/-- A relation that starts from finitely many things ends at those that lead to no cycle. -/
theorem acc_of_no_cycle {α : Type} {r : α → α → Prop} (domain : List α)
    (starts : ∀ {holder held}, r holder held → holder ∈ domain) {a : α}
    (grounded : ∀ b, ReflTransGen r a b → ¬ TransGen r b b) :
    Acc (fun held holder => r holder held) a := by
  -- Among what is reached from the start there is no cycle, and no step leads out of it.
  let reached : α → α → Prop := fun holder held => r holder held ∧ ReflTransGen r a holder
  have acyclic : ∀ b, ¬ TransGen reached b b := by
    intro b cycle
    obtain ⟨next, step, -⟩ := TransGen.head'_iff.mp cycle
    exact grounded b step.2 (TransGen.mono (fun _ _ step => step.1) _ _ cycle)
  have ends : WellFounded fun held holder => reached holder held :=
    wellFounded_of_acyclic domain (fun step => starts step.1) acyclic
  suffices inside : ∀ b, ReflTransGen r a b → Acc (fun held holder => r holder held) b from
    inside a .refl
  intro b
  induction b using ends.induction with
  | _ b ih => exact fun leads => .intro _ fun held step => ih held ⟨step, leads⟩ (leads.tail step)

/-! ### Declarations and the evaluator -/

/-- Among some declarations, one of the first name makes an instance of the second for a field. -/
def CSharp.Initializes (decls : List TypeDecl) (outer inner : String) : Prop :=
  ∃ decl ∈ decls, decl.name = outer ∧ ∃ attributes modifiers type name,
    Member.field attributes modifiers type name (some (.create inner [])) ∈ decl.members

variable {F : Framework} {M : Machine F}

/-- A constructor that gives a value ends, and so do all those that it runs. -/
theorem Machine.acc_of_construct? {type : String} {value : Value F}
    (constructed : M.construct? type = some value) :
    Acc (fun inner outer => Initializes M.types outer inner) type := by
  -- The induction carries that all constructors in a list of fields end.
  let ends : String → Prop := Acc fun inner outer => Initializes M.types outer inner
  let allEnd : List Member → Prop := fun members => ∀ attributes modifiers fieldType name inner,
    Member.field attributes modifiers fieldType name (some (.create inner [])) ∈ members →
      ends inner
  refine Machine.construct?.partial_correctness M (fun type _ => ends type)
    (fun members _ => allEnd members) (fun _ _ => True) ?_ ?_ (fun _ _ _ _ _ => trivial) type value
    constructed
  · intro initialFields? fieldsEnd type value made
    split at made
    · rename_i decl found
      obtain ⟨fields, initial, -⟩ := Option.bind_eq_some_iff.mp made
      refine .intro _ ?_
      rintro inner ⟨other, member, named, attributes, modifiers, fieldType, name, isField⟩
      -- The declaration that was found is the only one of its name.
      have listed : other ∈ M.types.filter (·.name == type) :=
        List.mem_filter.mpr ⟨member, beq_iff_eq.mpr named⟩
      rw [found, List.mem_singleton] at listed
      rw [listed] at isField
      exact fieldsEnd decl.members fields initial _ _ _ _ _ isField
    · cases made
  · intro _ _ _ constructorsEnd fieldsEnd _ members fields initial
      attributes modifiers fieldType name inner isField
    split at initial
    · cases isField
    · obtain ⟨_, -, initial⟩ := Option.bind_eq_some_iff.mp initial
      obtain ⟨_, others, -⟩ := Option.bind_eq_some_iff.mp initial
      rcases List.mem_cons.mp isField with same | later
      · cases same
      · exact fieldsEnd _ _ others _ _ _ _ _ later
    · obtain ⟨_, first, initial⟩ := Option.bind_eq_some_iff.mp initial
      obtain ⟨_, others, -⟩ := Option.bind_eq_some_iff.mp initial
      rcases List.mem_cons.mp isField with same | later
      · cases same
        exact constructorsEnd _ _ first
      · exact fieldsEnd _ _ others _ _ _ _ _ later
    · cases initial

namespace Library

variable (lib : Library)

/-- A new instance of a class starts with no instance, in any number of steps, of a class with an
instance of itself inside. -/
def Grounded (name : String) : Prop :=
  ∀ inner, ReflTransGen lib.Nests name inner → ¬ TransGen lib.Nests inner inner

variable {lib} {mode : Mode} {outer inner name : String}

theorem acc_nests_iff :
    Acc (fun inner outer => lib.Nests outer inner) name ↔ lib.Grounded name := by
  constructor
  · intro ends inner leads
    exact not_transGen_of_acc ends leads
  · exact acc_of_no_cycle (lib.classes.map (·.name)) Nests.mem_classes

/-! ### Constructors of a surface -/

/-- The constructors of a surface run those of the class fields of classes. -/
theorem initializes_iff :
    Initializes (lib.recordDecls mode) outer inner ↔
      ∃ record ∈ lib.classes, lib.typeName mode (.named record.name) = outer ∧
        ∃ field ∈ record.fields, lib.kindOf field.type = .classType ∧
          lib.typeName mode field.type = inner := by
  constructor
  · rintro ⟨decl, member, rfl, attributes, modifiers, type, name, isField⟩
    -- The fields of structs start with nothing.
    obtain ⟨isClass, record, declared, rfl⟩ : ∃ isClass : Bool,
        ∃ record ∈ (if isClass then lib.classes else lib.structs),
          decl = lib.recordDecl mode isClass record := by
      rw [recordDecls, List.mem_append, List.mem_map, List.mem_map] at member
      rcases member with ⟨record, declared, rfl⟩ | ⟨record, declared, rfl⟩
      · exact ⟨false, record, declared, rfl⟩
      · exact ⟨true, record, declared, rfl⟩
    rw [members_recordDecl, List.mem_map] at isField
    obtain ⟨field, isOne, same⟩ := isField
    rw [fieldMember, Member.field.injEq, initialValue?] at same
    obtain ⟨-, -, -, -, initial⟩ := same
    split at initial
    · rename_i isInstance
      obtain ⟨rfl, isClass⟩ := isInstance
      simp only [Option.some.injEq, Expr.create.injEq, and_true] at initial
      exact ⟨record, declared, rfl, field, isOne, isClass, initial⟩
    · cases initial
  · rintro ⟨record, declared, rfl, field, isOne, isClass, rfl⟩
    have isField : lib.fieldMember mode true field ∈ (lib.recordDecl mode true record).members := by
      rw [members_recordDecl]
      exact List.mem_map_of_mem isOne
    rw [fieldMember, initialValue?, if_pos ⟨rfl, isClass⟩] at isField
    exact ⟨lib.recordDecl mode true record, recordDecl_mem mode declared, rfl, _, _, _, _, isField⟩

theorem Nests.initializes (nests : lib.Nests outer inner) :
    Initializes (lib.recordDecls mode) (lib.typeName mode (.named outer))
      (lib.typeName mode (.named inner)) := by
  obtain ⟨record, declared, rfl, field, member, isNamed, kind⟩ := nests
  refine initializes_iff.mpr ⟨record, declared, rfl, field, member, ?_, by rw [isNamed]⟩
  rw [isNamed, kindOf, kind]

/-- A class with a name of its own means a record. -/
theorem kindOfName_of_class {record : Record} (declared : record ∈ lib.classes)
    (outside : record.name ∉ builtInNames) :
    lib.kindOfName record.name = .structType ∨ lib.kindOfName record.name = .classType := by
  have notBuiltIn : ∀ kind, ¬ BuiltIn record.name kind := by
    intro kind builtIn
    apply outside
    rcases exists_builtIn_iff.mp ⟨kind, builtIn⟩ with isHandle | ⟨entry, member, isSpelling⟩
    · exact isHandle ▸ List.mem_cons_self
    · exact List.mem_append_right _ (List.mem_flatMap.mpr ⟨entry, member, isSpelling⟩)
  have isClass : (lib.class? record.name).isSome = true :=
    isSome_class?_iff.mpr (List.mem_map_of_mem declared)
  rw [kindOfName_of_not_builtIn notBuiltIn, if_pos isClass]
  split
  · exact .inl rfl
  · exact .inr rfl

/-- No other class is spelled like one whose name means it. -/
theorem name_of_typeName {record : Record} (declared : record ∈ lib.classes)
    (kind : lib.kindOfName name = .classType)
    (same : lib.typeName mode (.named record.name) = lib.typeName mode (.named name)) :
    record.name = name := by
  obtain ⟨isNative, target⟩ := mode
  cases isNative with
  | false => exact same
  | true =>
  have suffixed : lib.typeName ⟨true, target⟩ (.named name) = name ++ target.recordSuffix :=
    typeName_native_record target (.inr kind)
  rw [suffixed, typeName] at same
  have ends : ∀ other : String, other = name ++ target.recordSuffix →
      other.toList.getLast? = target.recordSuffix.toList.getLast? := by
    rintro other rfl
    cases target <;> simp [Target.recordSuffix]
  split at same
  · have endings := ends _ same
    cases target <;> simp [Target.recordSuffix, Target.handleName] at endings
  · have endings := ends _ same
    cases target <;> simp [Target.recordSuffix, nativeBool] at endings
  · simpa using same
  · simpa using same
  -- A class that means something else is built in, and no built-in name has the suffix.
  · rename_i notStruct notClass
    have outside : record.name ∉ builtInNames := same ▸ not_builtIn_suffixed name
    rcases kindOfName_of_class declared outside with isStruct | isClass
    · exact (notStruct rfl isStruct).elim
    · exact (notClass rfl isClass).elim

/-- The constructor of a class ends if steps to instances inside do. -/
theorem acc_initializes (kind : lib.kindOfName name = .classType)
    (ends : Acc (fun inner outer => lib.Nests outer inner) name) :
    Acc (fun inner outer => Initializes (lib.recordDecls mode) outer inner)
      (lib.typeName mode (.named name)) := by
  induction ends with
  | intro name _ ih =>
    refine .intro _ fun inner step => ?_
    obtain ⟨record, declared, same, field, member, isClass, rfl⟩ := initializes_iff.mp step
    obtain rfl := name_of_typeName declared kind same
    obtain ⟨part, isNamed⟩ := Crossing.exists_named (.inr (.inr isClass))
    rw [isNamed] at isClass ⊢
    exact ih part ⟨record, declared, rfl, field, member, isNamed, isClass⟩ isClass

/-- A class whose constructor ends among some declarations leads to no class with an instance of
itself inside. -/
theorem grounded_of_acc {decls : List TypeDecl}
    (among : ∀ decl ∈ lib.recordDecls mode, decl ∈ decls)
    (ends : Acc (fun inner outer => Initializes decls outer inner)
      (lib.typeName mode (.named name))) :
    lib.Grounded name := by
  have spelled : ∀ outer inner, lib.Nests outer inner → Initializes decls
      (lib.typeName mode (.named outer)) (lib.typeName mode (.named inner)) := by
    intro outer inner nests
    obtain ⟨decl, member, named⟩ : Initializes (lib.recordDecls mode) _ _ := nests.initializes
    exact ⟨decl, among decl member, named⟩
  intro inner leads cycle
  apply not_transGen_of_acc ends
  · exact leads.lift (fun name => lib.typeName mode (.named name)) spelled
  · exact cycle.lift (fun name => lib.typeName mode (.named name)) spelled

/-- The constructor of a class ends exactly if the class leads to none with an instance of itself
inside. -/
theorem acc_initializes_iff (kind : lib.kindOfName name = .classType) :
    Acc (fun inner outer => Initializes (lib.recordDecls mode) outer inner)
      (lib.typeName mode (.named name)) ↔ lib.Grounded name :=
  ⟨grounded_of_acc fun _ => id, fun grounded => acc_initializes kind (acc_nests_iff.mpr grounded)⟩

/-- The constructors of a surface end exactly if no class starts with an instance of itself. -/
theorem wellFounded_initializes_iff :
    (WellFounded fun inner outer => Initializes (lib.recordDecls mode) outer inner) ↔
      lib.AcyclicClasses := by
  constructor
  · intro ends name
    exact grounded_of_acc (fun _ => id) (ends.apply (lib.typeName mode (.named name))) name .refl
  · intro acyclic
    refine ⟨fun outer => .intro _ fun inner step => ?_⟩
    obtain ⟨record, -, -, field, -, isClass, rfl⟩ := initializes_iff.mp step
    obtain ⟨part, isNamed⟩ := Crossing.exists_named (.inr (.inr isClass))
    rw [isNamed] at isClass ⊢
    exact acc_initializes isClass (acyclic.wellFounded.apply part)

/-! ### Classes that can be made -/

/-- A class that can be made leads to no class with an instance of itself inside. -/
theorem grounded_of_construct? {target : Target} (types : DeclaresRecords lib target M)
    (isNative : Bool) {value : Value F}
    (constructed : M.construct? (lib.typeName ⟨isNative, target⟩ (.named name)) = some value) :
    lib.Grounded name := by
  have among : ∀ decl ∈ lib.recordDecls ⟨isNative, target⟩, decl ∈ M.types := by
    intro decl member
    rw [types, List.mem_append]
    cases isNative with
    | false => exact .inl member
    | true => exact .inr member
  exact grounded_of_acc among (Machine.acc_of_construct? constructed)

/-- The constructors of each surface of an accepted library end for all classes exactly if no class
starts with an instance of itself inside, and the constructor of one class exactly if the class
leads to no such class. Only then can the class be made, on either surface, and it can be made then
if the compiler can tell the names of the types apart. -/
theorem constructors_end_iff (accepted : lib.Accepted) :
    (∀ mode : Mode,
      (WellFounded fun inner outer => Initializes (lib.recordDecls mode) outer inner) ↔
        lib.AcyclicClasses) ∧
    (∀ (mode : Mode) (name : String), lib.kindOfName name = .classType →
      (Acc (fun inner outer => Initializes (lib.recordDecls mode) outer inner)
        (lib.typeName mode (.named name)) ↔ lib.Grounded name)) ∧
    ∀ {target : Target} {M : Machine F}, DeclaresRecords lib target M →
      ∀ (isNative : Bool), ∀ record ∈ lib.classes,
        ((∃ value, M.construct? (lib.typeName ⟨isNative, target⟩ (.named record.name)) =
          some value) → lib.Grounded record.name) ∧
        (lib.PlainRecords → lib.UnmarkedNames → lib.FreeNativeNames target →
          lib.Grounded record.name →
            ∃ value, M.construct? (lib.typeName ⟨isNative, target⟩ (.named record.name)) =
              some value) := by
  refine ⟨fun mode => wellFounded_initializes_iff, fun mode name kind => acc_initializes_iff kind,
    fun types isNative record declared => ⟨?_, ?_⟩⟩
  · rintro ⟨value, constructed⟩
    exact grounded_of_construct? types isNative constructed
  · intro plain unmarked free grounded
    exact exists_class_of_acc accepted plain unmarked free types isNative declared
      (acc_nests_iff.mpr grounded)

end Library

namespace Sample

/-- A library with a class that has itself inside, next to classes that have not. -/
def linked : Library :=
  { Library.empty with
    classes :=
      [⟨"Leaf", [⟨"x", .named "int", none⟩]⟩,
        ⟨"Pair", [⟨"left", .named "Leaf", none⟩, ⟨"right", .named "Leaf", none⟩]⟩,
        ⟨"Node", [⟨"x", .named "int", none⟩, ⟨"next", .named "Node", none⟩]⟩] }

theorem linked_accepted : linked.Accepted := by cbv

/-- The library around native code that writes nothing. -/
def linkedMachine : Machine framework :=
  linked.machine ⟨"Access"⟩ .modern fun _ _ => ⟨fun _ => .nothing, .nothing⟩

/-- A pair starts with leaves and a node with a node, and that is all. -/
theorem nests_linked {outer inner : String} (nests : linked.Nests outer inner) :
    outer = "Pair" ∧ inner = "Leaf" ∨ outer = "Node" ∧ inner = "Node" := by
  obtain ⟨record, declared, rfl, field, member, isNamed, isClass⟩ := nests
  have notInt : linked.kindOfName "int" ≠ .classType := by decide
  simp only [linked, List.mem_cons, List.not_mem_nil, or_false] at declared
  rcases declared with rfl | rfl | rfl <;>
    simp only [List.mem_cons, List.not_mem_nil, or_false] at member
  · obtain rfl := member
    exact absurd (TypeRef.named.inj isNamed ▸ isClass) notInt
  · rcases member with rfl | rfl <;> exact .inl ⟨rfl, (TypeRef.named.inj isNamed).symm⟩
  · rcases member with rfl | rfl
    · exact absurd (TypeRef.named.inj isNamed ▸ isClass) notInt
    · exact .inr ⟨rfl, (TypeRef.named.inj isNamed).symm⟩

/-- A pair of leaves can be made, although there is a class that cannot. -/
theorem pair_can_be_made :
    linked.Accepted ∧ linked.DeclaresRecords .modern linkedMachine ∧ linked.PlainRecords ∧
      linked.UnmarkedNames ∧ linked.FreeNativeNames .modern ∧ linked.Grounded "Pair" ∧
      ∃ value, linkedMachine.construct? (linked.typeName ⟨true, .modern⟩ (.named "Pair")) =
        some value := by
  have plain : linked.PlainRecords := by
    simp only [Library.PlainRecords]
    decide
  have unmarked : linked.UnmarkedNames := by
    simp only [Library.UnmarkedNames]
    decide
  have free : linked.FreeNativeNames .modern := by
    simp only [Library.FreeNativeNames]
    decide
  have leaf : ∀ inner, ¬ linked.Nests "Leaf" inner := fun inner step => by
    rcases nests_linked step with ⟨isPair, -⟩ | ⟨isNode, -⟩
    · exact absurd isPair (by decide)
    · exact absurd isNode (by decide)
  have grounded : linked.Grounded "Pair" := by
    refine Library.acc_nests_iff.mp (.intro _ fun inner step => ?_)
    rcases nests_linked step with ⟨-, rfl⟩ | ⟨isNode, -⟩
    · exact .intro _ fun inner step => absurd step (leaf inner)
    · exact absurd isNode (by decide)
  have types : linked.DeclaresRecords .modern linkedMachine := rfl
  obtain ⟨-, -, makes⟩ := @Library.constructors_end_iff framework linked linked_accepted
  obtain ⟨-, ends⟩ := makes types true _ (List.mem_cons_of_mem _ List.mem_cons_self)
  exact ⟨linked_accepted, types, plain, unmarked, free, grounded,
    ends plain unmarked free grounded⟩

/-- The check accepts a class with itself inside, and its constructor never ends. -/
theorem node_cannot_be_made :
    linked.Accepted ∧ linked.Nests "Node" "Node" ∧
      (∀ mode : Mode, ¬ WellFounded fun inner outer =>
        Initializes (linked.recordDecls mode) outer inner) ∧
      ∀ isNative, linkedMachine.construct? (linked.typeName ⟨isNative, .modern⟩ (.named "Node")) =
        none := by
  have inside : linked.Nests "Node" "Node" :=
    ⟨_, List.mem_cons_of_mem _ (List.mem_cons_of_mem _ List.mem_cons_self), rfl, _,
      List.mem_cons_of_mem _ List.mem_cons_self, rfl, by decide⟩
  refine ⟨linked_accepted, inside, fun mode ends => ?_, fun isNative => ?_⟩
  · exact Library.wellFounded_initializes_iff.mp ends "Node" (.single inside)
  · rw [Option.eq_none_iff_forall_ne_some]
    intro value made
    have types : linked.DeclaresRecords .modern linkedMachine := rfl
    exact Library.grounded_of_construct? types isNative made "Node" .refl (.single inside)

end Sample

end InteropGlue
