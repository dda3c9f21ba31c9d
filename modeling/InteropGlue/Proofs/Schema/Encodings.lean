import InteropGlue.Proofs.Schema.RecordForms
/-!
# Schemas in every form

A schema can be stated by many trees of data, since each record in it is a mapping or a sequence on
its own, and each field with its default is there or not. Which trees these are is said declaration
by declaration, from the leaves up, and for each declaration the reader is shown to take all of them
back. The tree that spells everything out is one of them.

## Main Definitions

* `Marshal.States`, …, `Schema.States` — the data that state a declaration.

## Main Results

* `Marshal.ofDatum_reads`, …, `Schema.ofDatum_reads` — the reader of a declaration takes whatever
  states it to the declaration.
* `Marshal.toDatum_writes`, …, `Schema.toDatum_writes` — the fully spelled tree states it.
* `Schema.forms_read_back` — a schema is read from all of its trees.

## Design Notes

A declaration is given by the list of its fields, in the order of declaration, with their keys and
defaults. This list is written out here and not taken from the reader, so the two can disagree.
-/

namespace InteropGlue

/-! ### The data that state a declaration -/

/-- The data that state a marshaling annotation. -/
def Marshal.States (marshal : Marshal) : Datum → Prop :=
  StatesRecord [
    .required "kind" (StatesText marshal.kind),
    .optional "size_const" marshal.sizeConst fun size => StatesNatural size.toNat,
    .optional "size_param_index" marshal.sizeParamIndex fun index => StatesNatural index.toNat]

/-- The data that state an alias. -/
def AliasDecl.States (decl : AliasDecl) : Datum → Prop :=
  StatesRecord [
    .required "name" (StatesText decl.name),
    .required "target" (StatesText decl.target)]

/-- The data that state a parameter. -/
def ParamDecl.States (decl : ParamDecl) : Datum → Prop :=
  StatesRecord [
    .required "name" (StatesText decl.name),
    .required "type" (StatesText decl.type),
    .optional "direction" decl.direction fun direction => StatesText direction.word,
    .optional "marshal" decl.marshal Marshal.States]

/-- The data that state a function. -/
def FunctionDecl.States (decl : FunctionDecl) : Datum → Prop :=
  StatesRecord [
    .required "name" (StatesText decl.name),
    .withDefault "returns" "void" decl.returns StatesText,
    .optional "return_marshal" decl.returnMarshal Marshal.States,
    .list "params" decl.params ParamDecl.States]

/-- The data that state an event. -/
def EventDecl.States (decl : EventDecl) : Datum → Prop :=
  StatesRecord [
    .required "name" (StatesText decl.name),
    .list "params" decl.params ParamDecl.States]

/-- The data that state a member of an enum. -/
def EnumMember.States (member : EnumMember) : Datum → Prop :=
  StatesRecord [
    .required "name" (StatesText member.name),
    .required "value" (StatesText member.value)]

/-- The data that state an enum. -/
def EnumDecl.States (decl : EnumDecl) : Datum → Prop :=
  StatesRecord [
    .required "name" (StatesText decl.name),
    .withDefault "underlying" "int" decl.underlying StatesText,
    .withDefault "flags" false decl.isFlags StatesBoolean,
    .list "members" decl.members EnumMember.States]

/-- The data that state a field. -/
def FieldDecl.States (decl : FieldDecl) : Datum → Prop :=
  StatesRecord [
    .required "name" (StatesText decl.name),
    .required "type" (StatesText decl.type),
    .optional "count" decl.count StatesText,
    .optional "marshal" decl.marshal Marshal.States]

/-- The data that state a struct or class. -/
def RecordDecl.States (decl : RecordDecl) : Datum → Prop :=
  StatesRecord [
    .required "name" (StatesText decl.name),
    .list "fields" decl.fields FieldDecl.States]

/-- The data that state how the source is to look. -/
def OutputDecl.States (decl : OutputDecl) : Datum → Prop :=
  StatesRecord [
    .required "namespace" (StatesText decl.namespaceName),
    .withDefault "library" "AccessBridge" decl.library StatesText,
    .withDefault "file" "Generated.cs" decl.file StatesText,
    .optional "license" decl.license StatesText,
    .withDefault "usings" ["System", "System.Runtime.InteropServices", "System.Text"] decl.usings
      (StatesList StatesText),
    .withDefault "targets" [.modern, .legacy] decl.targets
      (StatesList fun target => StatesText target.label)]

/-- The data that state a schema. -/
def Schema.States (schema : Schema) : Datum → Prop :=
  StatesRecord [
    .required "output" schema.output.States,
    .list "alias" schema.aliases AliasDecl.States,
    .list "function" schema.functions FunctionDecl.States,
    .list "event" schema.events EventDecl.States,
    .list "enum" schema.enums EnumDecl.States,
    .list "struct" schema.structs RecordDecl.States,
    .list "class" schema.classes RecordDecl.States]

/-! ### Reading a declaration -/

theorem directionWords_lookup (direction : Direction) :
    directionWords.lookup direction.word = some direction := by
  cases direction <;> decide

theorem targetWords_lookup (target : Target) : targetWords.lookup target.label = some target := by
  cases target <;> decide

theorem Marshal.ofDatum_reads : Reads Marshal.ofDatum Marshal.States := by
  intro marshal datum states
  obtain ⟨source, isSource, kind, sizeConst, sizeParamIndex, -⟩ :=
    states.exists_source ⟨"MarshalConfig", 3⟩
  simp only [Marshal.ofDatum, isSource, kind.required readText_reads,
    sizeConst.optional readUInt32_reads nofun, sizeParamIndex.optional readUInt16_reads nofun,
    bind, Except.bind]
  rfl

/-- Null states no annotation. -/
theorem Marshal.not_states_null (marshal : Marshal) : ¬ marshal.States .null := nofun

theorem AliasDecl.ofDatum_reads : Reads AliasDecl.ofDatum AliasDecl.States := by
  intro decl datum states
  obtain ⟨source, isSource, name, target, -⟩ := states.exists_source ⟨"AliasConfig", 2⟩
  simp only [AliasDecl.ofDatum, isSource, name.required readText_reads,
    target.required readText_reads, bind, Except.bind]
  rfl

theorem ParamDecl.ofDatum_reads : Reads ParamDecl.ofDatum ParamDecl.States := by
  intro decl datum states
  obtain ⟨source, isSource, name, type, direction, marshal, -⟩ :=
    states.exists_source ⟨"ParamConfig", 4⟩
  simp only [ParamDecl.ofDatum, isSource, name.required readText_reads,
    type.required readText_reads, direction.optional (readWord_reads directionWords_lookup) nofun,
    marshal.optional Marshal.ofDatum_reads Marshal.not_states_null, bind, Except.bind]
  rfl

theorem FunctionDecl.ofDatum_reads : Reads FunctionDecl.ofDatum FunctionDecl.States := by
  intro decl datum states
  obtain ⟨source, isSource, name, returns, returnMarshal, params, -⟩ :=
    states.exists_source ⟨"FunctionConfig", 4⟩
  simp only [FunctionDecl.ofDatum, isSource, name.required readText_reads,
    FunctionDecl.defaultReturns, returns.withDefault readText_reads,
    returnMarshal.optional Marshal.ofDatum_reads Marshal.not_states_null,
    params.list ParamDecl.ofDatum_reads, bind, Except.bind]
  rfl

theorem EventDecl.ofDatum_reads : Reads EventDecl.ofDatum EventDecl.States := by
  intro decl datum states
  obtain ⟨source, isSource, name, params, -⟩ := states.exists_source ⟨"EventConfig", 2⟩
  simp only [EventDecl.ofDatum, isSource, name.required readText_reads,
    params.list ParamDecl.ofDatum_reads, bind, Except.bind]
  rfl

theorem EnumMember.ofDatum_reads : Reads EnumMember.ofDatum EnumMember.States := by
  intro member datum states
  obtain ⟨source, isSource, name, value, -⟩ := states.exists_source ⟨"EnumMemberConfig", 2⟩
  simp only [EnumMember.ofDatum, isSource, name.required readText_reads,
    value.required readText_reads, bind, Except.bind]
  rfl

theorem EnumDecl.ofDatum_reads : Reads EnumDecl.ofDatum EnumDecl.States := by
  intro decl datum states
  obtain ⟨source, isSource, name, underlying, flags, members, -⟩ :=
    states.exists_source ⟨"EnumConfig", 4⟩
  simp only [EnumDecl.ofDatum, isSource, name.required readText_reads,
    EnumDecl.defaultUnderlying, underlying.withDefault readText_reads,
    flags.withDefault readBoolean_reads, members.list EnumMember.ofDatum_reads, bind, Except.bind]
  rfl

theorem FieldDecl.ofDatum_reads : Reads FieldDecl.ofDatum FieldDecl.States := by
  intro decl datum states
  obtain ⟨source, isSource, name, type, count, marshal, -⟩ :=
    states.exists_source ⟨"FieldConfig", 4⟩
  simp only [FieldDecl.ofDatum, isSource, name.required readText_reads,
    type.required readText_reads, count.optional readText_reads nofun,
    marshal.optional Marshal.ofDatum_reads Marshal.not_states_null, bind, Except.bind]
  rfl

theorem RecordDecl.ofDatum_reads : Reads RecordDecl.ofDatum RecordDecl.States := by
  intro decl datum states
  obtain ⟨source, isSource, name, fields, -⟩ := states.exists_source ⟨"TypeConfig", 2⟩
  simp only [RecordDecl.ofDatum, isSource, name.required readText_reads,
    fields.list FieldDecl.ofDatum_reads, bind, Except.bind]
  rfl

theorem OutputDecl.ofDatum_reads : Reads OutputDecl.ofDatum OutputDecl.States := by
  intro decl datum states
  obtain ⟨source, isSource, namespaceName, library, file, license, usings, targets, -⟩ :=
    states.exists_source ⟨"OutputConfig", 6⟩
  simp only [OutputDecl.ofDatum, isSource, namespaceName.required readText_reads,
    OutputDecl.defaultLibrary, library.withDefault readText_reads,
    OutputDecl.defaultFile, file.withDefault readPath_reads,
    license.optional readText_reads nofun,
    OutputDecl.defaultUsings, usings.withDefault (readList_reads readText_reads),
    OutputDecl.defaultTargets,
    targets.withDefault (readList_reads (readWord_reads targetWords_lookup)), bind, Except.bind]
  rfl

theorem Schema.ofDatum_reads : Reads Schema.ofDatum Schema.States := by
  intro schema datum states
  obtain ⟨source, isSource, output, aliases, functions, events, enums, structs, classes, -⟩ :=
    states.exists_source ⟨"Schema", 7⟩
  simp only [Schema.ofDatum, isSource, output.required OutputDecl.ofDatum_reads,
    aliases.list AliasDecl.ofDatum_reads, functions.list FunctionDecl.ofDatum_reads,
    events.list EventDecl.ofDatum_reads, enums.list EnumDecl.ofDatum_reads,
    structs.list RecordDecl.ofDatum_reads, classes.list RecordDecl.ofDatum_reads,
    bind, Except.bind]
  rfl

/-! ### The fully spelled tree -/

theorem Marshal.toDatum_writes : Writes Marshal.toDatum Marshal.States := fun marshal =>
  StatesRecord.spelled (by simp) <|
    .cons ⟨rfl, text_writes _⟩ <|
    .cons ⟨rfl, writeOption_writes uInt32_writes _⟩ <|
    .cons ⟨rfl, writeOption_writes uInt16_writes _⟩ .nil

theorem AliasDecl.toDatum_writes : Writes AliasDecl.toDatum AliasDecl.States := fun decl =>
  StatesRecord.spelled (by simp) <|
    .cons ⟨rfl, text_writes _⟩ <| .cons ⟨rfl, text_writes _⟩ .nil

theorem ParamDecl.toDatum_writes : Writes ParamDecl.toDatum ParamDecl.States := fun decl =>
  StatesRecord.spelled (by simp) <|
    .cons ⟨rfl, text_writes _⟩ <|
    .cons ⟨rfl, text_writes _⟩ <|
    .cons ⟨rfl, writeOption_writes word_writes _⟩ <|
    .cons ⟨rfl, writeOption_writes Marshal.toDatum_writes _⟩ .nil

theorem FunctionDecl.toDatum_writes : Writes FunctionDecl.toDatum FunctionDecl.States := fun decl =>
  StatesRecord.spelled (by simp) <|
    .cons ⟨rfl, text_writes _⟩ <|
    .cons ⟨rfl, text_writes _⟩ <|
    .cons ⟨rfl, writeOption_writes Marshal.toDatum_writes _⟩ <|
    .cons ⟨rfl, writeList_writes ParamDecl.toDatum_writes _⟩ .nil

theorem EventDecl.toDatum_writes : Writes EventDecl.toDatum EventDecl.States := fun decl =>
  StatesRecord.spelled (by simp) <|
    .cons ⟨rfl, text_writes _⟩ <|
    .cons ⟨rfl, writeList_writes ParamDecl.toDatum_writes _⟩ .nil

theorem EnumMember.toDatum_writes : Writes EnumMember.toDatum EnumMember.States := fun member =>
  StatesRecord.spelled (by simp) <|
    .cons ⟨rfl, text_writes _⟩ <| .cons ⟨rfl, text_writes _⟩ .nil

theorem EnumDecl.toDatum_writes : Writes EnumDecl.toDatum EnumDecl.States := fun decl =>
  StatesRecord.spelled (by simp) <|
    .cons ⟨rfl, text_writes _⟩ <|
    .cons ⟨rfl, text_writes _⟩ <|
    .cons ⟨rfl, boolean_writes _⟩ <|
    .cons ⟨rfl, writeList_writes EnumMember.toDatum_writes _⟩ .nil

theorem FieldDecl.toDatum_writes : Writes FieldDecl.toDatum FieldDecl.States := fun decl =>
  StatesRecord.spelled (by simp) <|
    .cons ⟨rfl, text_writes _⟩ <|
    .cons ⟨rfl, text_writes _⟩ <|
    .cons ⟨rfl, writeOption_writes text_writes _⟩ <|
    .cons ⟨rfl, writeOption_writes Marshal.toDatum_writes _⟩ .nil

theorem RecordDecl.toDatum_writes : Writes RecordDecl.toDatum RecordDecl.States := fun decl =>
  StatesRecord.spelled (by simp) <|
    .cons ⟨rfl, text_writes _⟩ <|
    .cons ⟨rfl, writeList_writes FieldDecl.toDatum_writes _⟩ .nil

theorem OutputDecl.toDatum_writes : Writes OutputDecl.toDatum OutputDecl.States := fun decl =>
  StatesRecord.spelled (by simp) <|
    .cons ⟨rfl, text_writes _⟩ <|
    .cons ⟨rfl, text_writes _⟩ <|
    .cons ⟨rfl, text_writes _⟩ <|
    .cons ⟨rfl, writeOption_writes text_writes _⟩ <|
    .cons ⟨rfl, writeList_writes text_writes _⟩ <|
    .cons ⟨rfl, writeList_writes word_writes _⟩ .nil

theorem Schema.toDatum_writes : Writes Schema.toDatum Schema.States := fun schema =>
  StatesRecord.spelled (by simp) <|
    .cons ⟨rfl, OutputDecl.toDatum_writes _⟩ <|
    .cons ⟨rfl, writeList_writes AliasDecl.toDatum_writes _⟩ <|
    .cons ⟨rfl, writeList_writes FunctionDecl.toDatum_writes _⟩ <|
    .cons ⟨rfl, writeList_writes EventDecl.toDatum_writes _⟩ <|
    .cons ⟨rfl, writeList_writes EnumDecl.toDatum_writes _⟩ <|
    .cons ⟨rfl, writeList_writes RecordDecl.toDatum_writes _⟩ <|
    .cons ⟨rfl, writeList_writes RecordDecl.toDatum_writes _⟩ .nil

/-- Whatever states a schema is read as the schema, in particular the tree that spells it out. -/
theorem Schema.forms_read_back :
    (∀ (schema : Schema) (datum : Datum), schema.States datum →
      Schema.ofDatum datum = .ok schema) ∧
    ∀ schema : Schema, schema.States schema.toDatum ∧
      Schema.ofDatum schema.toDatum = .ok schema := by
  refine ⟨Schema.ofDatum_reads, fun schema => ?_⟩
  have states := Schema.toDatum_writes schema
  exact ⟨states, Schema.ofDatum_reads schema schema.toDatum states⟩

namespace Sample

/-- A parameter with a marshaling annotation that has no index. -/
def greeted : ParamDecl := ⟨"name", "string", some .byRef, some ⟨"LPStr", some 8, none⟩⟩

/-- The parameter as a sequence, which ends in a mapping with the keys the other way round. -/
def greetedDatum : Datum :=
  .sequence [.text "name", .text "string", .text "ref",
    .mapping [("size_const", .integer 8), ("kind", .text "LPStr")]]

/-- A schema with one function, most of whose fields have their defaults. -/
def greeting : Schema :=
  { output :=
      { namespaceName := "Demo"
        library := "Demo"
        file := "Generated.cs"
        license := none
        usings := ["System", "System.Runtime.InteropServices", "System.Text"]
        targets := [.modern, .legacy] }
    aliases := []
    functions := [⟨"Greet", "void", none, [greeted]⟩]
    events := []
    enums := []
    structs := []
    classes := [] }

/-- The schema as a mapping with an unknown key, in which mappings and sequences alternate. -/
def greetingDatum : Datum :=
  .mapping [
    ("comment", .integer 7),
    ("function", .sequence [
      .mapping [("params", .sequence [greetedDatum]), ("name", .text "Greet"),
        ("return_marshal", .null)]]),
    ("output", .sequence [.text "Demo", .text "Demo"])]

/-- A mixed tree that leaves most defaults out is read as the schema that has them. -/
theorem greeting_reads_back :
    greeting.States greetingDatum ∧ Schema.ofDatum greetingDatum = .ok greeting := by
  have marshal : Marshal.States ⟨"LPStr", some 8, none⟩
      (.mapping [("size_const", .integer 8), ("kind", .text "LPStr")]) := by
    refine .keyed (by decide) ?_
    simp [FieldForm.required, FieldForm.optional, FieldForm.withDefault, StatesText, StatesOption,
      StatesNatural]
  have param : greeted.States greetedDatum :=
    .listed (List.append_nil _).symm (.cons rfl (.cons rfl (.cons rfl (.cons marshal .nil))))
      (by simp)
  have params : StatesList ParamDecl.States [greeted] (.sequence [greetedDatum]) :=
    ⟨_, rfl, .cons param .nil⟩
  have function : FunctionDecl.States ⟨"Greet", "void", none, [greeted]⟩
      (.mapping [("params", .sequence [greetedDatum]), ("name", .text "Greet"),
        ("return_marshal", .null)]) := by
    refine .keyed (by decide) ?_
    simp [FieldForm.required, FieldForm.optional, FieldForm.withDefault, FieldForm.list, StatesText,
      StatesOption, params]
  have output : greeting.output.States (.sequence [.text "Demo", .text "Demo"]) := by
    refine .listed (List.take_append_drop 2 _).symm (.cons rfl (.cons rfl .nil)) ?_
    simp [FieldForm.optional, FieldForm.withDefault, greeting]
  have functions : StatesList FunctionDecl.States greeting.functions
      (.sequence [.mapping [("params", .sequence [greetedDatum]), ("name", .text "Greet"),
        ("return_marshal", .null)]]) :=
    ⟨_, rfl, .cons function .nil⟩
  have states : greeting.States greetingDatum := by
    refine .keyed (by decide) ?_
    simp [FieldForm.required, FieldForm.withDefault, FieldForm.list, functions, output]
    simp [greeting]
  exact ⟨states, Schema.forms_read_back.1 greeting greetingDatum states⟩

end Sample

end InteropGlue
