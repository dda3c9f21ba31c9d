import InteropGlue.Proofs.Glue.Members
import InteropGlue.Proofs.Text.CamelCase
/-!
# Words of generated source

What is generated holds the names and texts of a library, some of them with a fixed text before or
behind, and otherwise fixed texts only. So where all texts of a library are words, everything that
the source is printed from is a word.

## Main Definitions

* `Library.strings`, `OutputDecl.strings`, `AliasDecl.strings` — the texts that source is generated
  from.
* `Words` — texts that are all words.

## Main Results

* `Library.worded_implementation`, `Library.worded_copyRoutine` and their like — members.
* `Library.worded_applicationChapter`, `Library.worded_nativeChapter` — surfaces.
-/

namespace InteropGlue

open CSharp

/-! ### Texts of a library -/

/-- The name in a type and the names of its counts. -/
def TypeRef.strings : TypeRef → List String
  | .named name => [name]
  | .array element count => element.strings ++ count.toList

/-- The texts of a parameter. -/
def Param.strings (p : Param) : List String :=
  p.name :: p.type.strings ++ (p.marshal.map Marshal.kind).toList

/-- The texts of a function. -/
def Function.strings (f : Function) : List String :=
  f.name :: f.returnType.strings ++ f.params.flatMap Param.strings ++
    (f.returnMarshal.map Marshal.kind).toList

/-- The texts of an event. -/
def Event.strings (event : Event) : List String := event.name :: event.handler.strings

/-- The texts of a field. -/
def Field.strings (field : Field) : List String :=
  field.name :: field.type.strings ++ (field.marshal.map Marshal.kind).toList

/-- The texts of a struct or class. -/
def Record.strings (record : Record) : List String :=
  record.name :: record.fields.flatMap Field.strings

/-- The texts of an enum. -/
def Enum.strings (enum : Enum) : List String :=
  enum.name :: enum.underlying.strings ++
    enum.members.flatMap fun member => [member.name, member.value]

/-- All texts of a library. -/
def Library.strings (lib : Library) : List String :=
  lib.functions.flatMap Function.strings ++ lib.events.flatMap Event.strings ++
    lib.enums.flatMap Enum.strings ++ (lib.structs ++ lib.classes).flatMap Record.strings ++
    lib.aliases

/-- The texts of an output that its source shows, without the license. -/
def OutputDecl.strings (output : OutputDecl) : List String :=
  output.namespaceName :: output.library :: output.usings

/-- The texts of an alias. -/
def AliasDecl.strings (decl : AliasDecl) : List String := [decl.name, decl.target]

/-- Texts that are all words. -/
def Words (texts : List String) : Prop := ∀ text ∈ texts, Word text

instance (texts : List String) : Decidable (Words texts) :=
  inferInstanceAs (Decidable (∀ text ∈ texts, Word text))

section Words

variable {texts more : List String} {text : String}

@[simp] theorem words_nil : Words [] := List.forall_mem_nil _

@[simp] theorem words_cons : Words (text :: texts) ↔ Word text ∧ Words texts := List.forall_mem_cons

@[simp] theorem words_append : Words (texts ++ more) ↔ Words texts ∧ Words more :=
  List.forall_mem_append

@[simp] theorem words_flatMap {α : Type} {values : List α} {strings : α → List String} :
    Words (values.flatMap strings) ↔ ∀ value ∈ values, Words (strings value) :=
  List.forall_mem_flatMap

@[simp] theorem words_toList_map {α : Type} {value : Option α} {string : α → String} :
    Words (value.map string).toList ↔ ∀ given ∈ value, Word (string given) := by
  cases value <;> simp

theorem words_function {f : Function} : Words f.strings ↔ Word f.name ∧ Words f.returnType.strings ∧
    (∀ p ∈ f.params, Words p.strings) ∧ ∀ marshal ∈ f.returnMarshal, Word marshal.kind := by
  simp [Function.strings]

theorem words_param {p : Param} : Words p.strings ↔
    Word p.name ∧ Words p.type.strings ∧ ∀ marshal ∈ p.marshal, Word marshal.kind := by
  simp [Param.strings]

theorem words_field {field : Field} : Words field.strings ↔
    Word field.name ∧ Words field.type.strings ∧ ∀ marshal ∈ field.marshal, Word marshal.kind := by
  simp [Field.strings]

theorem words_record {record : Record} : Words record.strings ↔
    Word record.name ∧ ∀ field ∈ record.fields, Words field.strings := by
  simp [Record.strings]

theorem words_library {lib : Library} : Words lib.strings ↔
    (∀ f ∈ lib.functions, Words f.strings) ∧
      (∀ event ∈ lib.events, Word event.name ∧ Words event.handler.strings) ∧
      (∀ enum ∈ lib.enums, Words enum.strings) ∧
      (∀ record ∈ lib.structs, Words record.strings) ∧
      (∀ record ∈ lib.classes, Words record.strings) ∧ Words lib.aliases := by
  simp [Library.strings, Event.strings, forall_and, and_assoc]

end Words

/-! ### Types and annotations -/

theorem word_typeName {lib : Library} {mode : Mode} {type : TypeRef} (words : Words type.strings) :
    Word (lib.typeName mode type) := by
  induction type with
  | named name =>
    have name : Word name := words name List.mem_cons_self
    unfold Library.typeName
    split
    · cases mode.target <;> decide
    · decide
    · cases mode.target <;> exact name.append (by decide)
    · cases mode.target <;> exact name.append (by decide)
    · exact name
  | array element count ih =>
    exact (ih (words_append.mp words).1).append (by decide)

theorem word_recordType {lib : Library} {mode : Mode} {record : Record}
    (name : Word record.name) : Word (lib.typeName mode (.named record.name)) :=
  word_typeName (List.forall_mem_singleton.mpr name)

theorem clean_arguments {marshal : Marshal} (kind : Word marshal.kind) :
    Clean marshal.arguments := by
  have number (n : Nat) : Clean (toString n) := (word_toString n).clean
  unfold Marshal.arguments
  refine clean_append.mpr ⟨clean_append.mpr ⟨clean_append.mpr ⟨by decide, kind.clean⟩, ?_⟩, ?_⟩
  · cases marshal.sizeConst with
    | none => exact clean_empty
    | some size => exact clean_append.mpr ⟨by decide, number _⟩
  · cases marshal.sizeParamIndex with
    | none => exact clean_empty
    | some index => exact clean_append.mpr ⟨by decide, number _⟩

theorem word_marshalAttribute {mode : Mode} {place : AttributePlace} {marshal : Option Marshal}
    (kinds : ∀ given ∈ marshal, Word given.kind) :
    ∀ text ∈ marshalAttribute? mode place marshal, Word text := by
  intro text isAttribute
  unfold marshalAttribute? at isAttribute
  split at isAttribute
  · obtain ⟨given, isGiven, rfl⟩ := Option.map_eq_some_iff.mp isAttribute
    have role : Clean (if place = .returned then "return: " else "") := by split <;> decide
    have bracket : Word "[" := by decide
    exact (((bracket.append role).append (by decide)).append
      (clean_arguments (kinds given isGiven))).append (by decide)
  · cases isAttribute

/-! ### Declarations -/

namespace Library

variable {lib : Library} {mode : Mode} {target : Target}

theorem worded_parameters {f : Function} (words : Words f.strings) :
    ∀ p ∈ lib.parameters mode f, p.Worded := by
  intro p isParameter
  obtain ⟨param, isParam, rfl⟩ := List.mem_map.mp isParameter
  obtain ⟨name, type, marshal⟩ := words_param.mp ((words_function.mp words).2.2.1 param isParam)
  exact ⟨word_marshalAttribute marshal, word_typeName type, name⟩

theorem worded_signature {f : Function} (words : Words f.strings) {name : String}
    (isWord : Word name) : (lib.signature mode name f).Worded :=
  ⟨word_typeName (words_function.mp words).2.1, isWord, worded_parameters words⟩

theorem word_functionPointer : Word functionPointer := by decide

theorem worded_delegateOf {f : Function} (words : Words f.strings) {name : String}
    (isWord : Word name) : (lib.delegateOf mode name f).Worded := by
  refine ⟨List.forall_mem_append.mpr ⟨?_, fun text isText => ?_⟩, worded_signature words isWord⟩
  · split
    · exact List.forall_mem_singleton.mpr word_functionPointer
    · exact List.forall_mem_nil _
  · exact word_marshalAttribute (words_function.mp words).2.2.2 text (Option.mem_toList.mp isText)

theorem worded_handlerDelegate {event : Event} (words : Words event.handler.strings) :
    (lib.handlerDelegate mode event).Worded :=
  worded_delegateOf words (words_function.mp words).1

theorem titles_entries {α β : Type} (values : List α) (entry : α → β) :
    (values.map fun value => Section.entry (entry value)).filterMap Section.title? = [] := by
  rw [List.filterMap_map]
  exact List.filterMap_eq_nil_iff.mpr fun _ _ => rfl

theorem titles_items {α : Type} (items : List (Item α)) :
    (items.map Section.item).filterMap Section.title? = [] := by
  rw [List.filterMap_map]
  exact List.filterMap_eq_nil_iff.mpr fun _ _ => rfl

theorem worded_enumDecl {enum : Enum} (words : Words enum.strings) :
    (lib.enumDecl mode enum).Worded := by
  simp only [Enum.strings, List.cons_append, words_cons, words_append, words_flatMap] at words
  obtain ⟨name, underlying, members⟩ := words
  refine ⟨?_, name, fun text isBase => ?_, ?_, ?_⟩
  · unfold enumDecl
    split
    · exact List.forall_mem_singleton.mpr (by decide)
    · exact List.forall_mem_nil _
  · obtain rfl := Option.some.inj isBase
    exact word_typeName underlying
  · rw [enumDecl, titles_entries]
    exact List.forall_mem_nil _
  · rw [TypeDecl.members, enumDecl, List.flatMap_map]
    intro m isMember
    obtain ⟨member, isValue, isEntry⟩ := List.mem_flatMap.mp isMember
    obtain rfl := List.mem_singleton.mp isEntry
    exact ⟨(members member isValue).1, (members member isValue).2.1⟩

theorem worded_fieldMember {field : Field} (words : Words field.strings) (isClass : Bool) :
    (lib.fieldMember mode isClass field).Worded := by
  obtain ⟨name, type, marshal⟩ := words_field.mp words
  refine ⟨fun text isText => word_marshalAttribute marshal text (Option.mem_toList.mp isText),
    by decide, word_typeName type, name, fun value isInitial => ?_⟩
  unfold initialValue? at isInitial
  split at isInitial
  · obtain rfl := Option.some.inj isInitial
    simp [Expr.Worded, word_typeName type]
  · cases isInitial

theorem worded_recordDecl {record : Record} (words : Words record.strings) (isClass : Bool) :
    (lib.recordDecl mode isClass record).Worded := by
  obtain ⟨name, fields⟩ := words_record.mp words
  refine ⟨?_, word_recordType name, fun _ isBase => ?_, ?_, ?_⟩
  · unfold recordDecl
    split
    · exact List.forall_mem_singleton.mpr (by decide)
    · exact List.forall_mem_nil _
  · cases isBase
  · rw [recordDecl, titles_entries]
    exact List.forall_mem_nil _
  · rw [members_recordDecl]
    exact List.forall_mem_map.mpr fun field isField =>
      worded_fieldMember (fields field isField) isClass

theorem word_void : Word "void" := by decide

/-! ### Function implementations -/

theorem worded_unwrapCall {value : Expr} (worded : value.Worded) : (unwrapCall value).Worded := by
  simp +decide [unwrapCall, machineExpr, Expr.Worded, worded]

theorem worded_wrapCall {value : Expr} (worded : value.Worded) : (wrapCall value).Worded := by
  simp +decide [wrapCall, machineExpr, Expr.Worded, worded]

section Param

variable {p : Param} (words : Words p.strings)

include words

theorem word_name : Word p.name := (words_param.mp words).1

theorem word_temporary : Word p.temporary := (word_name words).append (by decide)

theorem word_nativeType : Word (lib.nativeType target p) := word_typeName (words_param.mp words).2.1

theorem worded_callArgument : (lib.callArgument p).Worded := by
  have name : (Expr.name p.name).Worded := word_name words
  unfold callArgument
  split
  all_goals first
    | exact name
    | split_ifs
      · exact word_temporary words
      · exact Arg.worded_value.mpr (worded_unwrapCall name)
    | exact Expr.worded_callOwn.mpr ⟨by decide, List.forall_mem_singleton.mpr name⟩

theorem worded_temporaryStep :
    (lib.handleTemporary target p).Worded ∧ (lib.structTemporary target p).Worded ∧
      (lib.classTemporary target p).Worded := by
  have unwrapped : (unwrapCall (.name p.name)).Worded := worded_unwrapCall (word_name words)
  have temporary := word_temporary words
  have type : Word (lib.nativeType target p) := word_nativeType words
  have created : (Expr.create (lib.nativeType target p) []).Worded := ⟨type, trivial⟩
  unfold handleTemporary structTemporary classTemporary
  refine ⟨?_, ?_, ?_⟩
  · split_ifs
    · exact ⟨temporary, unwrapped⟩
    · exact ⟨type, temporary⟩
  · cases p.direction with
    | byRef => exact ⟨temporary, unwrapped⟩
    | output => exact ⟨type, temporary⟩
    | buffer | input => exact ⟨temporary, created⟩
  · split_ifs
    · exact ⟨temporary, unwrapped⟩
    · exact ⟨temporary, created⟩

theorem worded_keepAlive : (keepAlive p).Worded := by
  simp +decide [keepAlive, Step.Worded, Expr.Worded, word_name words]

theorem worded_valueWriteBack : (valueWriteBack p).Worded :=
  ⟨word_name words, worded_wrapCall (word_temporary words)⟩

theorem worded_classWriteBack : ∀ s ∈ lib.classWriteBack target p, s.Worded := by
  refine List.forall_mem_append.mpr ⟨?_, List.forall_mem_singleton.mpr ?_⟩
  · split_ifs
    · exact List.forall_mem_singleton.mpr
        ⟨word_name words, word_typeName (words_param.mp words).2.1, trivial⟩
    · exact List.forall_mem_nil _
  · simp +decide [Step.Worded, machineExpr, Expr.Worded, word_name words, word_temporary words]

end Param

theorem worded_returnSteps (f : Function) : ∀ s ∈ lib.returnSteps f, s.Worded := by
  have result : (Expr.name resultName).Worded := show Word resultName by decide
  unfold returnSteps
  split
  · exact List.forall_mem_nil _
  · exact List.forall_mem_singleton.mpr
      (Expr.worded_callOwn.mpr ⟨by decide, List.forall_mem_singleton.mpr result⟩)
  all_goals first
    | exact List.forall_mem_singleton.mpr (worded_wrapCall result)
    | exact List.forall_mem_singleton.mpr result

theorem worded_entryCall {f : Function} (words : Words f.strings) : (lib.entryCall f).Worded := by
  obtain ⟨name, -, params, -⟩ := words_function.mp words
  have arguments : ∀ p ∈ f.params, (lib.callArgument p).Worded :=
    fun p isParam => worded_callArgument (params p isParam)
  have call : (Expr.call (.member (.name "EntryPoints") f.name)
      (f.params.map lib.callArgument)).Worded := by
    simp +decide only [Expr.Worded, name, Arg.allWorded_iff, List.forall_mem_map]
    exact ⟨trivial, arguments⟩
  unfold entryCall
  split_ifs
  · exact call
  · exact ⟨by decide, call⟩

/-- The implementation of a function holds words. -/
theorem worded_implementation {f : Function} (words : Words f.strings) :
    (lib.implementation target f).Worded := by
  obtain ⟨name, -, params, -⟩ := words_function.mp words
  have bucket {kind : Kind} {written : Bool} : ∀ p ∈ lib.paramsOfKind f kind written,
      Words p.strings := fun p isParam => params p (List.mem_of_mem_filter isParam)
  refine ⟨by decide, worded_signature words name, Block.worded_ofSteps.mpr ?_⟩
  simp only [implementationSteps, temporaries, keepAlives, writeBacks, buckets, List.map_append,
    List.forall_mem_append, List.forall_mem_map, List.forall_mem_flatMap,
    List.forall_mem_singleton]
  exact ⟨⟨⟨⟨⟨⟨fun p among => (worded_temporaryStep (bucket p among)).1,
      fun p among => (worded_temporaryStep (bucket p among)).2.1⟩,
      fun p among => (worded_temporaryStep (bucket p among)).2.2⟩, worded_entryCall words⟩,
      fun p among => worded_keepAlive (bucket p among)⟩,
      ⟨fun p among => worded_valueWriteBack (bucket p among),
        fun p among => worded_valueWriteBack (bucket p among)⟩,
      fun p among => worded_classWriteBack (bucket p among)⟩, worded_returnSteps f⟩

/-! ### Conversions -/

theorem worded_convert {rule : CopyRule} {value : Expr} (worded : value.Worded) :
    (rule.convert value).Worded := by
  have routine : Word rule.conversion.valueRoutine := by cases rule.conversion <;> decide
  simp +decide [CopyRule.convert, machineExpr, Expr.Worded, worded, routine]

theorem worded_fillClass {rule : CopyRule} {type : TypeRef} (words : Words type.strings)
    {source dest : Expr} (isSource : source.Worded) (isDest : dest.Worded) :
    (lib.fillClass rule type source dest).Worded := by
  have routine : Word rule.conversion.copyRoutine := by cases rule.conversion <;> decide
  have typeName : Word (lib.typeName (rule.conversion.destMode rule.target) type) :=
    word_typeName words
  simp +decide [fillClass, Block.Worded, Step.Worded, Expr.Worded, machineExpr, isSource, isDest,
    routine, typeName]

/-- Copying a value holds words, at every array level. -/
theorem worded_copyValue {rule : CopyRule} {source dest : Expr} {count : Option Expr}
    {type : TypeRef} (words : Words type.strings) (isSource : source.Worded)
    (isDest : dest.Worded) (isCount : ∀ size ∈ count, size.Worded) :
    (lib.copyValue rule source dest count type).Worded := by
  induction type generalizing rule source dest count with
  | named name =>
    have assigned {value : Expr} (isValue : value.Worded) :
        (Block.ofSteps [.assign dest value]).Worded := ⟨⟨isDest, isValue⟩, trivial⟩
    have converted : (rule.convert source).Worded := worded_convert isSource
    unfold copyValue
    split
    case h_3 =>
      split_ifs
      · exact worded_fillClass words isSource isDest
      · exact assigned converted
    case h_4 =>
      have routine : Word rule.conversion.boolRoutine := by cases rule.conversion <;> decide
      exact assigned (Expr.worded_callOwn.mpr ⟨routine, List.forall_mem_singleton.mpr isSource⟩)
    case h_5 => exact assigned isSource
    all_goals exact assigned converted
  | array element bound ih =>
    have count_word : Word rule.countName := Word.append (by decide) (word_toString _).clean
    have index : Word rule.indexName := Word.append (by decide) (word_toString _).clean
    have ofElement := (words_append.mp words).1
    have typeName : Word (lib.typeName (rule.conversion.destMode rule.target) element) :=
      word_typeName ofElement
    have size : (count.getD (.member source "Length")).Worded := by
      cases count with
      | none => exact ⟨isSource, by decide⟩
      | some size => exact isCount size rfl
    have elements := @ih rule.forElements (.element source (.name rule.indexName))
      (.element dest (.name rule.indexName)) none ofElement ⟨isSource, index⟩ ⟨isDest, index⟩
      fun _ isSome => absurd isSome (Option.not_mem_none _)
    rw [copyValue]
    exact Block.worded_ifHolds.mpr ⟨⟨isSource, trivial⟩, ⟨count_word, size⟩,
      ⟨isDest, typeName, count_word⟩, index, count_word, elements, trivial⟩

theorem worded_copyField {field : Field} (words : Words field.strings) (conversion : Conversion) :
    (lib.copyField target conversion field).Worded := by
  obtain ⟨name, type, -⟩ := words_field.mp words
  have source : (Expr.name "infoSrc").Worded := show Word "infoSrc" by decide
  have dest : (Expr.name "infoDest").Worded := show Word "infoDest" by decide
  have counts : ∀ count ∈ field.countField?, Word count := by
    intro count isCount
    unfold Field.countField? at isCount
    split at isCount
    case h_1 element bound shape =>
      rw [shape] at type
      exact (words_append.mp type).2 count (Option.mem_toList.mpr isCount)
    case h_2 => cases isCount
  refine worded_copyValue type ⟨source, name⟩ ⟨dest, name⟩ fun size isSize => ?_
  obtain ⟨count, isCount, rfl⟩ := Option.map_eq_some_iff.mp isSize
  exact ⟨source, counts count isCount⟩

theorem worded_machineParameter : machineParameter.Worded :=
  ⟨fun _ isMarshal => absurd isMarshal (Option.not_mem_none _), by decide, by decide⟩

theorem worded_plainParameter {passing : Passing} {type name : String} (isType : Word type)
    (isName : Word name) : (plainParameter passing type name).Worded :=
  ⟨fun _ isMarshal => absurd isMarshal (Option.not_mem_none _), isType, isName⟩

/-- The parameters of a routine that converts a value. -/
theorem worded_withMachine {type name : String} (isType : Word type) (isName : Word name) :
    ∀ p ∈ [machineParameter, plainParameter .byValue type name], p.Worded :=
  List.forall_mem_cons.mpr ⟨worded_machineParameter,
    List.forall_mem_singleton.mpr (worded_plainParameter isType isName)⟩

theorem worded_copyRoutine {record : Record} (words : Words record.strings)
    (conversion : Conversion) (isClass : Bool) :
    (lib.copyRoutine target conversion isClass record).Worded := by
  obtain ⟨name, fields⟩ := words_record.mp words
  have type {mode : Mode} : Word (lib.typeName mode (.named record.name)) := word_recordType name
  have routine : Word conversion.copyRoutine := by cases conversion <;> decide
  refine ⟨by decide, ⟨word_void, routine, ?_⟩, Block.worded_concat.mpr ?_⟩
  · exact List.forall_mem_cons.mpr ⟨worded_machineParameter, List.forall_mem_cons.mpr
      ⟨worded_plainParameter type (by decide), List.forall_mem_singleton.mpr
        (worded_plainParameter type (by decide))⟩⟩
  · exact List.forall_mem_map.mpr fun field isField =>
      worded_copyField (fields field isField) conversion

theorem worded_allocatingRoutine {record : Record} (name : Word record.name)
    (conversion : Conversion) (isClass : Bool) :
    (lib.allocatingRoutine target conversion isClass record).Worded := by
  have type {mode : Mode} : Word (lib.typeName mode (.named record.name)) := word_recordType name
  have fills : Word conversion.copyRoutine := by cases conversion <;> decide
  have gives : Word conversion.valueRoutine := by cases conversion <;> decide
  refine ⟨by decide, ⟨type, gives, ?_⟩, Block.worded_append.mpr ⟨?_, ?_⟩⟩
  · exact worded_withMachine type (by decide)
  · split_ifs
    · simp +decide [Step.Worded, Expr.Worded]
    · trivial
  · simp +decide [Step.Worded, Expr.Worded, machineExpr, fills, type, Arg.Worded]

/-- The four routines of a record hold words. -/
theorem worded_conversionRoutines {record : Record} (words : Words record.strings)
    (isClass : Bool) : ∀ m ∈ lib.conversionRoutines target isClass record, m.Worded := by
  have name := (words_record.mp words).1
  simp only [conversionRoutines, List.forall_mem_cons, List.not_mem_nil, false_implies,
    implies_true, and_true]
  exact ⟨worded_allocatingRoutine name _ _, worded_allocatingRoutine name _ _,
    worded_copyRoutine words _ _, worded_copyRoutine words _ _⟩

theorem worded_scalarConversions (bothWays : Bool) :
    ∀ m ∈ scalarConversions target bothWays, m.Worded := by
  have handle : Word target.handleName := by cases target <;> decide
  have native : Word nativeBool := by decide
  have object : Word handleType := by decide
  have toBool : toBoolRoutine.Worded := by
    refine ⟨by decide, ⟨by decide, by decide, List.forall_mem_singleton.mpr
      (worded_plainParameter native (by decide))⟩, ?_⟩
    simp +decide [Step.Worded, Expr.Worded]
  have toNative : toNativeBoolRoutine.Worded := by
    refine ⟨by decide, ⟨native, by decide, List.forall_mem_singleton.mpr
      (worded_plainParameter (by decide) (by decide))⟩, ?_⟩
    simp +decide [Step.Worded, Expr.Worded]
  have wraps : Word Conversion.wrap.valueRoutine := by decide
  have unwraps : Word Conversion.unwrap.valueRoutine := by decide
  have wrap : (wrapHandleRoutine target).Worded := by
    refine ⟨by decide, ⟨object, wraps, worded_withMachine handle (by decide)⟩, ?_⟩
    simp +decide [Step.Worded, Expr.Worded, machineExpr]
  have unwrap : (unwrapHandleRoutine target).Worded := by
    refine ⟨by decide, ⟨handle, unwraps, worded_withMachine object (by decide)⟩, ?_⟩
    simp +decide [Block.Worded, Step.Worded, Expr.Worded, handle]
  unfold scalarConversions
  split_ifs
  all_goals
    simp only [List.forall_mem_cons, List.not_mem_nil, false_implies, implies_true, and_true]
  · exact ⟨toBool, toNative, wrap, unwrap⟩
  · exact ⟨toBool, wrap⟩

/-! ### Events -/

section Event

variable {event : Event} (name : Word event.name)

include name

theorem word_fieldName : Word event.fieldName := by
  have underscore : Word "_" := by decide
  exact underscore.append (Text.clean_lowerCamel name.clean)

theorem word_countName : Word event.countName := (word_fieldName name).append (by decide)

theorem word_callbackName : Word event.callbackName := (word_fieldName name).append (by decide)

theorem word_raiserName : Word event.raiserName := Word.append (by decide) name.clean

theorem word_forwarderName : Word event.forwarderName := Word.append (by decide) name.clean

theorem word_registration : Word event.registration := Word.append (by decide) name.clean

/-- What adding and removing a handler do holds words if what registers and unregisters does. -/
theorem worded_accessors {register unregister : List Step} (registers : ∀ s ∈ register, s.Worded)
    (unregisters : ∀ s ∈ unregister, s.Worded) :
    (accessors event register unregister).1.Worded ∧
      (accessors event register unregister).2.Worded := by
  simpa +decide [accessors, Block.Worded, Step.Worded, Expr.Worded, Event.handlers,
    Event.subscribers, word_fieldName name, word_countName name] using ⟨registers, unregisters⟩

theorem worded_nativeAccessors :
    event.nativeAccessors.1.Worded ∧ event.nativeAccessors.2.Worded := by
  refine worded_accessors name ?_ ?_
  all_goals simp +decide [Event.setCallback, Event.callback, Step.Worded, Expr.Worded,
    entryPointsExpr, word_callbackName name, word_raiserName name, word_registration name]

theorem worded_forwardingAccessors :
    event.forwardingAccessors.1.Worded ∧ event.forwardingAccessors.2.Worded := by
  refine worded_accessors name ?_ ?_
  all_goals simp +decide [Event.nativeEvent, Event.detachForwarder, Step.Worded, Expr.Worded,
    nativeEventsExpr, name, word_forwarderName name]

end Event

/-- The events, fields and methods of an event hold words. -/
theorem worded_eventMembers {event : Event} (name : Word event.name)
    (words : Words event.handler.strings) :
    (event.member "public" event.nativeAccessors).Worded ∧
      (event.member "public override" event.forwardingAccessors).Worded ∧
      (∀ m ∈ event.nativeFields, m.Worded) ∧ ∀ m ∈ event.forwardingFields, m.Worded := by
  have type : Word event.handler.name := (words_function.mp words).1
  have field {type name : String} (isType : Word type) (isName : Word name) :
      (Event.privateField type name).Worded :=
    ⟨List.forall_mem_nil _, by decide, isType, isName,
      fun _ isInitial => absurd isInitial (Option.not_mem_none _)⟩
  have handlers := field type (word_fieldName name)
  have callback := field type (word_callbackName name)
  have subscribers : (Event.privateField "int" event.countName).Worded :=
    field (by decide) (word_countName name)
  refine ⟨⟨by decide, type, name, worded_nativeAccessors name⟩,
    ⟨by decide, type, name, worded_forwardingAccessors name⟩, ?_, ?_⟩
  · exact List.forall_mem_cons.mpr ⟨handlers, List.forall_mem_cons.mpr
      ⟨callback, List.forall_mem_singleton.mpr subscribers⟩⟩
  · exact List.forall_mem_cons.mpr ⟨handlers, List.forall_mem_singleton.mpr subscribers⟩

theorem worded_raiser {event : Event} (name : Word event.name)
    (words : Words event.handler.strings) : (lib.raiser mode event).Worded := by
  have params : ∀ p ∈ event.handler.params, Word p.name :=
    fun p isParam => word_name ((words_function.mp words).2.2.1 p isParam)
  refine ⟨by decide, ⟨word_void, word_raiserName name, worded_parameters words⟩, ?_⟩
  simpa +decide [Block.Worded, Step.Worded, Expr.Worded, Event.handlers, word_fieldName name]
    using params

theorem worded_forwardedArgument {p : Param} (name : Word p.name) :
    (lib.forwardedArgument p).Worded := by
  have passed : (Expr.name p.name).Worded := name
  unfold forwardedArgument
  split
  · exact worded_wrapCall passed
  · exact Expr.worded_callOwn.mpr ⟨by decide, List.forall_mem_singleton.mpr passed⟩
  · exact passed

theorem worded_forwarder {event : Event} (name : Word event.name)
    (words : Words event.handler.strings) : (lib.forwarder target event).Worded := by
  refine ⟨by decide, ⟨word_void, word_forwarderName name, worded_parameters words⟩,
    Block.worded_ofSteps.mpr (List.forall_mem_singleton.mpr
      (Expr.worded_callOwn.mpr ⟨word_raiserName name, List.forall_mem_map.mpr ?_⟩))⟩
  exact fun p isParam =>
    worded_forwardedArgument (word_name ((words_function.mp words).2.2.1 p isParam))

theorem worded_detachRoutine (names : ∀ event ∈ lib.events, Word event.name) :
    lib.detachRoutine.Worded := by
  refine ⟨by decide, ⟨word_void, by decide, List.forall_mem_nil _⟩,
    Block.worded_ofSteps.mpr (List.forall_mem_flatMap.mpr fun event declared => ?_)⟩
  have name := names event declared
  simp +decide [Event.detachForwarder, Event.nativeEvent, nativeEventsExpr, Event.handlers,
    Event.subscribers, Step.Worded, Expr.Worded, name, word_fieldName name, word_countName name,
    word_forwarderName name]

/-! ### Classes -/

section Classes

variable {names : ClassNames}

/-- The names of the classes of a target are words if their stem is. -/
theorem word_ofTarget (stem : Word names.stem) : Word (names.entryPoints target) ∧
    Word (names.nativeEvents target) ∧ Word (names.nativeFunctions target) ∧
    Word (names.forwarder target) := by
  have suffix : Clean target.classSuffix := by cases target <;> decide
  exact ⟨(stem.append (by decide)).append suffix, (stem.append (by decide)).append suffix,
    (stem.append (by decide)).append suffix, (stem.append (by decide)).append suffix⟩

/-- What shows and keeps a collaborator holds words. -/
theorem worded_collaborator {collaborator : Collaborator} {className type : String}
    (known : collaborator ∈ [Collaborator.entryPoints, Collaborator.nativeEvents])
    (isClass : Word className) (isType : Word type) :
    ∀ m ∈ collaboratorMembers collaborator className type, m.Worded := by
  have words : ∀ known ∈ [Collaborator.entryPoints, Collaborator.nativeEvents],
      Word known.property ∧ Word known.parameter ∧ Word known.field := by decide
  obtain ⟨property, parameter, field⟩ := words collaborator known
  intro m isMember
  rcases mem_collaboratorMembers.mp isMember with rfl | rfl | rfl
  · exact ⟨List.forall_mem_nil _, by decide, isType, field,
      fun _ isInitial => absurd isInitial (Option.not_mem_none _)⟩
  · exact ⟨isClass, List.forall_mem_singleton.mpr (worded_plainParameter isType parameter),
      ⟨field, parameter⟩, trivial⟩
  · exact ⟨isType, property, field⟩

theorem worded_disposal : (Member.method "public override" disposeSignature
    (.ofSteps [.evaluate (.callOwn "DetachForwarders" [])])).Worded := by
  refine ⟨by decide, ⟨word_void, by decide, List.forall_mem_nil _⟩, ?_⟩
  simp +decide [Step.Worded]

variable (words : Words lib.strings) (stem : Word names.stem)

include words stem

theorem worded_functionsClass : (lib.functionsClass names mode).Worded where
  attributes := List.forall_mem_nil _
  name := stem.append (by decide)
  base _ isBase := absurd isBase (Option.not_mem_none _)
  titles := by
    rw [functionsClass, titles_entries]
    exact List.forall_mem_nil _
  members := by
    rw [members_functionsClass]
    refine List.forall_mem_map.mpr fun f declared => ?_
    have ofFunction := (words_library.mp words).1 f declared
    exact worded_signature ofFunction (words_function.mp ofFunction).1

theorem worded_eventsClass : (lib.eventsClass names).Worded where
  attributes := List.forall_mem_nil _
  name := stem.append (by decide)
  base text isBase := by
    obtain rfl := Option.some.inj isBase
    decide
  titles := by
    rw [eventsClass, List.filterMap_append, titles_entries]
    exact List.forall_mem_nil _
  members := by
    obtain ⟨-, events, -⟩ := words_library.mp words
    rw [members_eventsClass, List.forall_mem_append, List.forall_mem_map,
      List.forall_mem_singleton]
    exact ⟨fun event declared =>
      ⟨(words_function.mp (events event declared).2).1, (events event declared).1⟩,
      word_void, by decide, List.forall_mem_nil _⟩

theorem worded_entryPointsClass : (lib.entryPointsClass names target).Worded where
  attributes := List.forall_mem_nil _
  name := (word_ofTarget stem).1
  base _ isBase := absurd isBase (Option.not_mem_none _)
  titles := by
    show ∀ title ∈ ["Entry point delegate types", "Entry points"], Clean title
    decide
  members := by
    obtain ⟨functions, events, -⟩ := words_library.mp words
    have pointer {name : String} (isWord : Word name) : Word (pointerName name) :=
      isWord.append (by decide)
    have name : ∀ name ∈ lib.entryPointNames, Word name := by
      rw [entryPointNames, List.forall_mem_append, List.forall_mem_map, List.forall_mem_map]
      exact ⟨fun f declared => (words_function.mp (functions f declared)).1,
        fun event declared => word_registration (events event declared).1⟩
    rw [members_entryPointsClass, entryPointDelegates, List.map_append, List.forall_mem_append,
      List.forall_mem_append, List.map_map, List.map_map, List.forall_mem_map, List.forall_mem_map,
      List.forall_mem_map]
    refine ⟨⟨fun f declared => ?_, fun event declared => ?_⟩, fun entryPoint offered => ?_⟩
    · exact worded_delegateOf (functions f declared)
        (pointer (words_function.mp (functions f declared)).1)
    · have handler := (words_function.mp (events event declared).2).1
      exact ⟨List.forall_mem_singleton.mpr word_functionPointer, word_void,
        pointer (word_registration (events event declared).1), List.forall_mem_singleton.mpr
          (worded_plainParameter (((word_ofTarget stem).2.1.append (by decide)).append
            handler.clean) (by decide))⟩
    · exact ⟨pointer (name entryPoint offered), name entryPoint offered⟩

theorem worded_nativeEventsClass : (lib.nativeEventsClass names target).Worded where
  attributes := List.forall_mem_nil _
  name := (word_ofTarget stem).2.1
  base _ isBase := absurd isBase (Option.not_mem_none _)
  titles := by
    show ∀ title ∈ ["Event delegate types", "Event fields", "Event properties", "Event raisers"],
      Clean title
    decide
  members := by
    obtain ⟨-, events, -⟩ := words_library.mp words
    intro m isMember
    rcases mem_nativeEventsClass_members.mp isMember with ofCollaborator |
      ⟨event, declared, rfl⟩ | ⟨event, declared, isField⟩ | ⟨event, declared, rfl⟩ |
      ⟨event, declared, rfl⟩
    · exact worded_collaborator (by decide) (word_ofTarget stem).2.1 (word_ofTarget stem).1 m
        ofCollaborator
    · exact worded_handlerDelegate (events event declared).2
    · obtain ⟨name, handler⟩ := events event declared
      exact (worded_eventMembers name handler).2.2.1 m isField
    · obtain ⟨name, handler⟩ := events event declared
      exact (worded_eventMembers name handler).1
    · exact worded_raiser (events event declared).1 (events event declared).2

theorem worded_nativeFunctionsClass : (lib.nativeFunctionsClass names target).Worded where
  attributes := List.forall_mem_nil _
  name := (word_ofTarget stem).2.2.1
  base text isBase := by
    obtain rfl := Option.some.inj isBase
    exact stem.append (by decide)
  titles := by
    show ∀ title ∈ ["Function implementations", "Struct conversions", "Class conversions",
      "Handle and boolean conversions"], Clean title
    decide
  members := by
    obtain ⟨functions, -, -, structs, classes, -⟩ := words_library.mp words
    rw [members_nativeFunctionsClass]
    simp only [List.forall_mem_append, List.forall_mem_map, List.forall_mem_flatMap]
    exact ⟨⟨⟨⟨worded_collaborator (by decide) (word_ofTarget stem).2.2.1 (word_ofTarget stem).1,
      fun f declared => worded_implementation (functions f declared)⟩,
      fun record declared => worded_conversionRoutines (structs record declared) false⟩,
      fun record declared => worded_conversionRoutines (classes record declared) true⟩,
      worded_scalarConversions true⟩

theorem worded_forwarderClass : (lib.forwarderClass names target).Worded where
  attributes := List.forall_mem_nil _
  name := (word_ofTarget stem).2.2.2
  base text isBase := by
    obtain rfl := Option.some.inj isBase
    exact stem.append (by decide)
  titles := by
    show ∀ title ∈ ["Event fields", "Event properties", "Event raisers", "Event forwarders",
      "Detach forwarders", "Handle and boolean conversions"], Clean title
    decide
  members := by
    obtain ⟨-, events, -⟩ := words_library.mp words
    intro m isMember
    rcases mem_forwarderClass_members.mp isMember with ofCollaborator |
      ⟨event, declared, isField⟩ | ⟨event, declared, rfl⟩ | ⟨event, declared, rfl⟩ |
      ⟨event, declared, rfl⟩ | rfl | rfl | isConversion
    · exact worded_collaborator (by decide) (word_ofTarget stem).2.2.2 (word_ofTarget stem).2.1 m
        ofCollaborator
    · obtain ⟨name, handler⟩ := events event declared
      exact (worded_eventMembers name handler).2.2.2 m isField
    · obtain ⟨name, handler⟩ := events event declared
      exact (worded_eventMembers name handler).2.1
    · exact worded_raiser (events event declared).1 (events event declared).2
    · exact worded_forwarder (events event declared).1 (events event declared).2
    · exact worded_detachRoutine fun event declared => (events event declared).1
    · exact worded_disposal
    · exact worded_scalarConversions false m isConversion

/-! ### Surfaces -/

omit stem in
theorem worded_recordDecls : ∀ decl ∈ lib.recordDecls mode, decl.Worded := by
  obtain ⟨-, -, -, structs, classes, -⟩ := words_library.mp words
  rw [recordDecls, List.forall_mem_append, List.forall_mem_map, List.forall_mem_map]
  exact ⟨fun record declared => worded_recordDecl (structs record declared) false,
    fun record declared => worded_recordDecl (classes record declared) true⟩

/-- The surface of the application holds words. -/
theorem worded_applicationChapter : (lib.applicationChapter names target).Worded where
  title := by
    show Clean "Application level types"
    decide
  titles := by
    simp only [applicationChapter, List.filterMap_append, titles_items, List.append_nil]
    refine List.forall_mem_append.mpr ⟨List.forall_mem_nil _, ?_⟩
    split
    · exact List.forall_mem_nil _
    · show ∀ title ∈ ["Event handler delegates"], Clean title
      decide
  declarations := by
    obtain ⟨-, events, enums, -⟩ := words_library.mp words
    rw [declarations_applicationChapter]
    simp only [List.map_append, List.forall_mem_append, List.forall_mem_map, List.forall_mem_cons]
    exact ⟨⟨⟨worded_functionsClass words stem, worded_eventsClass words stem,
      List.forall_mem_nil _⟩,
      fun event declared => worded_handlerDelegate (events event declared).2⟩,
      fun enum declared => worded_enumDecl (enums enum declared), worded_recordDecls words⟩

/-- The native surface of a target holds words. -/
theorem worded_nativeChapter : (lib.nativeChapter names target).Worded where
  title := by
    have label : Clean target.label := by cases target <;> decide
    show Clean ("Native level types (" ++ target.label ++ ")")
    exact clean_append.mpr ⟨clean_append.mpr ⟨by decide, label⟩, by decide⟩
  titles := by
    show ∀ title ∈ (_ ++ (Item.trailed ((lib.recordDecls (.native target)).map
      Declaration.type)).map Section.item ++ _).filterMap Section.title?, Clean title
    rw [List.filterMap_append, List.filterMap_append, titles_items]
    exact List.forall_mem_nil _
  declarations := by
    rw [declarations_nativeChapter]
    simp only [List.forall_mem_append, List.forall_mem_map, List.forall_mem_cons]
    exact ⟨⟨⟨worded_entryPointsClass words stem, worded_nativeEventsClass words stem,
      List.forall_mem_nil _⟩, worded_recordDecls words⟩,
      worded_nativeFunctionsClass words stem, worded_forwarderClass words stem,
      List.forall_mem_nil _⟩

end Classes

end Library

end InteropGlue
