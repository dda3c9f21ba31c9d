import InteropGlue.Proofs.CSharp.Nesting
/-!
# Words of generated text

A printed line is put together from the names that its syntax holds and from texts that are fixed.
As long as no name has a character that structures text, and none is empty or begins with white
space, no line is mistaken for one that opens or closes a block or a region, unless it is meant to
be one.

## Main Definitions

* `Clean`, `Word` — texts without a structuring character, and those that may also begin a line.
* `Expr.Worded`, `Block.Worded`, `Member.Worded`, `TypeDecl.Worded` and their like — syntax that
  holds words only.

## Main Results

* `Expr.word_text`, `Step.word_text` — the text of worded syntax is a word.
* `Block.tidy_code`, `Member.tidy_code`, `Declaration.tidy_code`, `Chapter.tidy_code` — the layout
  of worded syntax is tidy.
-/

namespace InteropGlue.CSharp

/-! ### Texts -/

/-- The characters that end lines, open and close blocks, and begin the lines of regions. -/
def marks : List Char := ['\n', '\x7b', '\x7d', '#']

/-- A text without a character that structures text. -/
def Clean (text : String) : Prop := ∀ c ∈ text.toList, c ∉ marks

-- The characters of the text are tried, not all characters that there are.
instance (text : String) : Decidable (Clean text) :=
  List.decidableBAll (· ∉ marks) text.toList

/-- A clean text that is not empty and does not begin with white space. -/
def Word (text : String) : Prop :=
  text.toList.head?.any (!Text.isBlank ·) = true ∧ Clean text

instance (text : String) : Decidable (Word text) := inferInstanceAs (Decidable (_ ∧ _))

@[simp] theorem clean_append {text more : String} :
    Clean (text ++ more) ↔ Clean text ∧ Clean more := by
  simp only [Clean, String.toList_append, List.forall_mem_append]

theorem clean_empty : Clean "" := by decide

theorem clean_ofList {chars : List Char} :
    Clean (String.ofList chars) ↔ ∀ c ∈ chars, c ∉ marks := by
  rw [Clean, String.toList_ofList]

theorem clean_commaSeparated {texts : List String} (clean : ∀ text ∈ texts, Clean text) :
    Clean (commaSeparated texts) := by
  induction texts with
  | nil => exact clean_empty
  | cons text texts ih =>
    obtain ⟨first, others⟩ := List.forall_mem_cons.mp clean
    rw [commaSeparated] at ih ⊢
    cases texts with
    | nil => rwa [String.intercalate_singleton]
    | cons next texts =>
      rw [String.intercalate_cons_cons, clean_append, clean_append]
      exact ⟨⟨first, by decide⟩, ih others⟩

/-- The codes of the structuring characters. -/
def markCodes : List Nat := marks.map Char.toNat

theorem toNat_mem_markCodes {c : Char} (isMark : c ∈ marks) : c.toNat ∈ markCodes :=
  List.mem_map_of_mem isMark

namespace Word

variable {text more : String}

theorem clean (word : Word text) : Clean text := word.2

theorem append (word : Word text) (clean : Clean more) : Word (text ++ more) := by
  refine ⟨?_, clean_append.mpr ⟨word.2, clean⟩⟩
  have begins := word.1
  rw [String.toList_append]
  cases shape : text.toList with
  | nil =>
    rw [shape] at begins
    cases begins
  | cons c rest => rwa [shape] at begins

/-- A word cannot be mistaken for a line that opens or closes something. -/
theorem plain (word : Word text) : Plain text := by
  obtain ⟨begins, clean⟩ := word
  have noMark : ∀ c ∈ marks, c ∉ text.toList := fun c isMark isChar => clean c isChar isMark
  refine ⟨⟨?_, noMark '\n' (by decide)⟩, fun closes => ?_, fun opens => ?_⟩
  · cases shape : text.toList with
    | nil =>
      rw [shape] at begins
      cases begins
    | cons c rest =>
      rw [shape] at begins noMark
      refine ⟨c, rest, rfl, by simpa using begins, ?_⟩
      rintro rfl
      exact noMark '#' (by decide) List.mem_cons_self
  · exact noMark '\x7d' (by decide) (closes ▸ List.mem_cons_self)
  · exact noMark '\x7b' (by decide) (opens.subset (by decide))

end Word

/-- A number is written with digits only. -/
theorem word_toString (n : Nat) : Word (toString n) := by
  have digits : ∀ c ∈ (toString n).toList, 48 ≤ c.toNat ∧ c.toNat ≤ 57 := by
    intro c isChar
    have isDigit : c.isDigit = true :=
      @Nat.isDigit_of_mem_toDigits 10 n c (by decide) (by decide) (by simpa using isChar)
    simpa [Char.isDigit, UInt32.le_iff_toNat_le] using isDigit
  refine ⟨?_, fun c isChar isMark => ?_⟩
  · obtain ⟨c, rest, shape⟩ : ∃ c rest, (toString n).toList = c :: rest :=
      List.exists_cons_of_ne_nil (by simp)
    have code := digits c (shape ▸ List.mem_cons_self)
    have notBlank : Text.isBlank c = false := by
      simp only [Text.isBlank, Text.blankRanges, List.any_cons, List.any_nil, Bool.or_eq_false_iff,
        Bool.and_eq_false_iff, decide_eq_false_iff_not, and_true]
      omega
    rw [shape, List.head?_cons, Option.any_some, notBlank]
    rfl
  · have code := digits c isChar
    have isCode : c.toNat ∈ [0x0a, 0x7b, 0x7d, 0x23] := toNat_mem_markCodes isMark
    simp only [List.mem_cons, List.not_mem_nil, or_false] at isCode
    omega

/-! ### Expressions -/

theorem word_allocation {elementType size : String} (type : Word elementType) (count : Word size) :
    Word (allocation elementType size) := by
  have stem : Clean (String.ofList (elementType.toList.takeWhile (· != '['))) :=
    clean_ofList.mpr fun c among => type.clean c ((List.takeWhile_prefix _).subset among)
  have levels : Clean (String.ofList (elementType.toList.dropWhile (· != '['))) :=
    clean_ofList.mpr fun c among => type.clean c ((List.dropWhile_suffix _).subset among)
  have new : Word "new " := by decide
  exact (((new.append stem).append (by decide)).append count.clean).append (by decide) |>.append
    levels

mutual

/-- An expression that holds words only. -/
def Expr.Worded : Expr → Prop
  | .name name => Word name
  | .member owner name => owner.Worded ∧ Word name
  | .element array index => array.Worded ∧ index.Worded
  | .null => True
  | .number _ => True
  | .compare _ left right => left.Worded ∧ right.Worded
  | .choose condition yes no => condition.Worded ∧ yes.Worded ∧ no.Worded
  | .cast type value => Word type ∧ value.Worded
  | .call callee args => callee.Worded ∧ Arg.AllWorded args
  | .create type args => Word type ∧ Arg.AllWorded args
  | .createArray elementType size => Word elementType ∧ size.Worded
termination_by structural e => e

/-- An argument that holds words only. -/
def Arg.Worded : Arg → Prop
  | .pass _ value => value.Worded
termination_by structural a => a

/-- Arguments that hold words only. -/
def Arg.AllWorded : List Arg → Prop
  | [] => True
  | arg :: rest => arg.Worded ∧ Arg.AllWorded rest
termination_by structural args => args

end

@[simp] theorem Arg.allWorded_iff {args : List Arg} :
    Arg.AllWorded args ↔ ∀ arg ∈ args, arg.Worded := by
  induction args with
  | nil => simp [AllWorded]
  | cons arg args ih => rw [AllWorded, ih, List.forall_mem_cons]

@[simp] theorem Arg.worded_value {value : Expr} : (Arg.value value).Worded ↔ value.Worded := by
  rw [Arg.value, Arg.Worded]

@[simp] theorem Expr.worded_callOwn {method : String} {args : List Expr} :
    (Expr.callOwn method args).Worded ↔ Word method ∧ ∀ arg ∈ args, arg.Worded := by
  simp [callOwn, Expr.Worded]

theorem Comparison.clean_operator (comparison : Comparison) : Clean comparison.operator := by
  cases comparison <;> decide

mutual

/-- The text of a worded expression is a word. -/
theorem Expr.word_text : ∀ e : Expr, e.Worded → Word e.text
  | .name _, word => word
  | .member owner _, ⟨isWorded, name⟩ =>
    ((owner.word_text isWorded).append (by decide)).append name.clean
  | .element array index, worded => by
    have inBrackets := (index.word_text worded.2).clean
    rw [Expr.text, String.append_assoc, String.append_assoc]
    exact (array.word_text worded.1).append (by simp +decide [inBrackets])
  | .null, _ => by decide
  | .number n, _ => word_toString n
  | .compare comparison left right, worded => by
    have second := (right.word_text worded.2).clean
    simp only [Expr.text, String.append_assoc]
    exact (left.word_text worded.1).append (by simp +decide [second, comparison.clean_operator])
  | .choose condition yes no, worded => by
    have second := (yes.word_text worded.2.1).clean
    have third := (no.word_text worded.2.2).clean
    simp only [Expr.text, String.append_assoc]
    exact (condition.word_text worded.1).append (by simp +decide [second, third])
  | .cast type value, worded => by
    have second := (value.word_text worded.2).clean
    have opening : Word "(" := by decide
    simp only [Expr.text, String.append_assoc]
    exact opening.append (by simp +decide [worded.1.clean, second])
  | .call callee args, worded => by
    have inBrackets := clean_commaSeparated (Arg.clean_texts args worded.2)
    simp only [Expr.text, String.append_assoc]
    exact (callee.word_text worded.1).append (by simp +decide [inBrackets])
  | .create type args, worded => by
    have inBrackets := clean_commaSeparated (Arg.clean_texts args worded.2)
    have new : Word "new " := by decide
    simp only [Expr.text, String.append_assoc]
    exact new.append (by simp +decide [worded.1.clean, inBrackets])
  | .createArray _ size, worded => word_allocation worded.1 (size.word_text worded.2)
termination_by structural e => e

/-- The text of a worded argument is clean. -/
theorem Arg.clean_text : ∀ arg : Arg, arg.Worded → Clean arg.text
  | .pass passing value, worded => by
    have given := (value.word_text worded).clean
    cases passing <;> simp +decide [Arg.text, Passing.keyword, given]
termination_by structural arg => arg

/-- The texts of worded arguments are clean. -/
theorem Arg.clean_texts :
    ∀ args : List Arg, Arg.AllWorded args → ∀ text ∈ Arg.texts args, Clean text
  | [], _ => List.forall_mem_nil _
  | arg :: rest, worded =>
    List.forall_mem_cons.mpr ⟨arg.clean_text worded.1, Arg.clean_texts rest worded.2⟩
termination_by structural args => args

end

/-! ### Statements -/

/-- A statement without a body that holds words only. -/
def Step.Worded : Step → Prop
  | .declare type name => Word type ∧ Word name
  | .bind name value => Word name ∧ value.Worded
  | .assign target value => target.Worded ∧ value.Worded
  | .attach target value => target.Worded ∧ value.Worded
  | .detach target value => target.Worded ∧ value.Worded
  | .increment target => target.Worded
  | .decrement target => target.Worded
  | .evaluate value => value.Worded
  | .leave none => True
  | .leave (some value) => value.Worded

theorem Step.word_text {s : Step} (worded : s.Worded) : Word s.text := by
  cases s with
  | declare type name =>
    simp only [text, String.append_assoc]
    exact worded.1.append (by simp +decide [worded.2.clean])
  | bind name value =>
    have var : Word "var " := by decide
    simp only [text, String.append_assoc]
    exact var.append (by simp +decide [worded.1.clean, (value.word_text worded.2).clean])
  | assign target value | attach target value | detach target value =>
    simp only [text, String.append_assoc]
    exact (target.word_text worded.1).append
      (by simp +decide [(value.word_text worded.2).clean])
  | increment target | decrement target | evaluate target =>
    exact (target.word_text worded).append (by decide)
  | leave value =>
    cases value with
    | none => decide
    | some value =>
      have leaves : Word "return " := by decide
      exact (leaves.append (value.word_text worded).clean).append (by decide)

/-- Statements that hold words only. -/
def Block.Worded : Block → Prop
  | .done => True
  | .step s rest => s.Worded ∧ rest.Worded
  | .guarded condition body rest => condition.Worded ∧ body.Worded ∧ rest.Worded
  | .counted index bound body rest => Word index ∧ bound.Worded ∧ body.Worded ∧ rest.Worded

namespace Block

@[simp] theorem worded_append {block next : Block} :
    (block ++ next).Worded ↔ block.Worded ∧ next.Worded := by
  change (block.append next).Worded ↔ _
  induction block with
  | done => simp [append, Worded]
  | step s rest ih => simp [append, Worded, ih, and_assoc]
  | guarded condition body rest _ ih => simp [append, Worded, ih, and_assoc]
  | counted index bound body rest _ ih => simp [append, Worded, ih, and_assoc]

@[simp] theorem worded_ofSteps {steps : List Step} :
    (ofSteps steps).Worded ↔ ∀ s ∈ steps, s.Worded := by
  induction steps with
  | nil => simp [ofSteps, Worded]
  | cons s steps ih =>
    rw [List.forall_mem_cons, ← ih]
    rfl

@[simp] theorem worded_concat {blocks : List Block} :
    (concat blocks).Worded ↔ ∀ block ∈ blocks, block.Worded := by
  induction blocks with
  | nil => simp [concat, Worded]
  | cons block blocks ih =>
    rw [List.forall_mem_cons, ← ih]
    exact worded_append

@[simp] theorem worded_ifHolds {condition : Expr} {body : Block} :
    (ifHolds condition body).Worded ↔ condition.Worded ∧ body.Worded := by
  simp [ifHolds, Worded]

/-- The layout of worded statements is tidy. -/
theorem tidy_code {block : Block} (worded : block.Worded) : block.code.Tidy := by
  induction block with
  | done => trivial
  | step s rest ih => exact ⟨(Step.word_text worded.1).plain, ih worded.2⟩
  | guarded condition body rest bodyIh restIh =>
    have header : Word ("if (" ++ condition.text ++ ")") :=
      (Word.append (by decide) (condition.word_text worded.1).clean).append (by decide)
    exact ⟨header.plain.toOneLine, bodyIh worded.2.1, restIh worded.2.2⟩
  | counted index bound body rest bodyIh restIh =>
    obtain ⟨isWord, isWorded, bodyWorded, restWorded⟩ := worded
    have start : Word ("for (var " ++ index ++ " = 0; ") :=
      (Word.append (by decide) isWord.clean).append (by decide)
    have test : Word ("for (var " ++ index ++ " = 0; " ++ index ++ " < " ++ bound.text) :=
      ((start.append isWord.clean).append (by decide)).append (bound.word_text isWorded).clean
    have header : Word (countedHeader index bound.text) :=
      ((test.append (by decide)).append isWord.clean).append (by decide)
    exact ⟨header.plain.toOneLine, bodyIh bodyWorded, restIh restWorded⟩

end Block

/-! ### Layout -/

namespace Code

theorem tidy_append {code next : Code} (tidy : code.Tidy) (also : next.Tidy) :
    (code ++ next).Tidy := by
  change (code.append next).Tidy
  induction code with
  | done => exact also
  | line text rest ih => exact ⟨tidy.1, ih tidy.2⟩
  | blank rest ih => exact ih tidy
  | block header body rest _ ih => exact ⟨tidy.1, tidy.2.1, ih tidy.2.2⟩
  | region title body rest _ ih => exact ⟨tidy.1, tidy.2.1, ih tidy.2.2⟩

theorem tidy_concat {pieces : List Code} (tidy : ∀ piece ∈ pieces, piece.Tidy) :
    (concat pieces).Tidy := by
  induction pieces with
  | nil => trivial
  | cons piece pieces ih =>
    obtain ⟨first, others⟩ := List.forall_mem_cons.mp tidy
    exact tidy_append first (ih others)

theorem tidy_ofLines {lines : List String} (words : ∀ line ∈ lines, Word line) :
    (ofLines lines).Tidy := by
  induction lines with
  | nil => trivial
  | cons line lines ih =>
    obtain ⟨first, others⟩ := List.forall_mem_cons.mp words
    exact ⟨first.plain, ih others⟩

end Code

/-- The title of a region. -/
def Section.title? {α : Type} : Section α → Option String
  | .item _ => none
  | .region title _ => some title

section Arrangement

variable {α : Type} {layout : α → Code}

theorem Item.tidy_codes {items : List (Item α)}
    (tidy : ∀ value ∈ items.filterMap Item.value?, (layout value).Tidy) :
    (Item.codes layout items).Tidy := by
  refine Code.tidy_concat fun piece isPiece => ?_
  obtain ⟨item, isItem, rfl⟩ := List.mem_map.mp isPiece
  cases item with
  | entry value => exact tidy value (Item.mem_filterMap_iff.mpr isItem)
  | blank => trivial

/-- A listing is tidy if its entries are and its titles are clean. -/
theorem Section.tidy_codes {parts : List (Section α)}
    (titles : ∀ title ∈ parts.filterMap Section.title?, Clean title)
    (tidy : ∀ value ∈ parts.flatMap Section.entries, (layout value).Tidy) :
    (Section.codes layout parts).Tidy := by
  refine Code.tidy_concat fun piece isPiece => ?_
  obtain ⟨part, isPart, rfl⟩ := List.mem_map.mp isPiece
  have inside : ∀ value ∈ part.items.filterMap Item.value?, (layout value).Tidy :=
    fun value isEntry => tidy value (List.mem_flatMap.mpr ⟨part, isPart, isEntry⟩)
  cases part with
  | item single => exact Item.tidy_codes inside
  | region title items =>
    have clean := titles title (List.mem_filterMap.mpr ⟨_, isPart, rfl⟩)
    have noMark : ∀ c ∈ marks, c ∉ title.toList := fun c isMark isChar => clean c isChar isMark
    exact ⟨⟨noMark _ (by decide), noMark _ (by decide)⟩, Item.tidy_codes inside, trivial⟩

end Arrangement

/-! ### Members -/

/-- A parameter that holds words only. -/
def Parameter.Worded (p : Parameter) : Prop :=
  (∀ text ∈ p.marshal, Word text) ∧ Word p.type ∧ Word p.name

theorem Parameter.clean_text {p : Parameter} (worded : p.Worded) : Clean p.text := by
  obtain ⟨marshal, type, name⟩ := worded
  have keyword : Clean p.passing.keyword := by cases p.passing <;> decide
  have mark : Clean (if p.isBuffer then "[Out] " else "") := by split <;> decide
  unfold Parameter.text
  cases annotation : p.marshal with
  | none => simp +decide [mark, keyword, type.clean, name.clean]
  | some text =>
    simp +decide [mark, keyword, type.clean, name.clean, (marshal text annotation).clean]

/-- A signature that holds words only. -/
def Signature.Worded (signature : Signature) : Prop :=
  Word signature.returns ∧ Word signature.name ∧ ∀ p ∈ signature.params, p.Worded

theorem clean_paramList {params : List Parameter} (worded : ∀ p ∈ params, p.Worded) :
    Clean (paramList params) :=
  clean_commaSeparated
    (List.forall_mem_map.mpr fun p isParam => Parameter.clean_text (worded p isParam))

theorem Signature.word_text {signature : Signature} (worded : signature.Worded) :
    Word signature.text := by
  simp only [text, String.append_assoc]
  exact worded.1.append (by simp +decide [worded.2.1.clean, clean_paramList worded.2.2])

/-- A delegate type that holds words only. -/
def Delegate.Worded (delegate : Delegate) : Prop :=
  (∀ text ∈ delegate.attributes, Word text) ∧ delegate.signature.Worded

theorem Delegate.word_lines {delegate : Delegate} (worded : delegate.Worded) :
    ∀ line ∈ delegate.lines, Word line := by
  have last : Word ("public delegate " ++ delegate.signature.text ++ ";") :=
    (Word.append (by decide) (Signature.word_text worded.2).clean).append (by decide)
  exact List.forall_mem_append.mpr ⟨worded.1, List.forall_mem_singleton.mpr last⟩

/-- A member that holds words only. -/
def Member.Worded : Member → Prop
  | .field attributes modifiers type name initial =>
    (∀ text ∈ attributes, Word text) ∧ Word modifiers ∧ Word type ∧ Word name ∧
      ∀ value ∈ initial, value.Worded
  | .enumValue name value => Word name ∧ Word value
  | .abstractMethod signature => signature.Worded
  | .method modifiers signature body => Word modifiers ∧ signature.Worded ∧ body.Worded
  | .constructor type params body => Word type ∧ (∀ p ∈ params, p.Worded) ∧ body.Worded
  | .property type name value => Word type ∧ Word name ∧ value.Worded
  | .slot type name => Word type ∧ Word name
  | .abstractEvent type name => Word type ∧ Word name
  | .event modifiers type name add remove =>
    Word modifiers ∧ Word type ∧ Word name ∧ add.Worded ∧ remove.Worded
  | .delegate d => d.Worded

/-- A line that ends in a closing brace, but not as a whole, neither opens nor closes a block. -/
theorem OneLine.plain_append_closed {text more : String} (front : OneLine text)
    (noFeed : '\n' ∉ more.toList) : Plain (text ++ (more ++ "\x7d")) := by
  obtain ⟨c, rest, shape, notBlank, notMark⟩ := front.begins
  have chars : (text ++ (more ++ "\x7d")).toList = c :: (rest ++ more.toList ++ ['\x7d']) := by
    rw [String.toList_append, String.toList_append, shape, List.append_assoc]
    rfl
  have oneLine : '\n' ∉ (text ++ (more ++ "\x7d")).toList := by
    simp only [String.toList_append, List.mem_append, not_or]
    exact ⟨front.noFeed, noFeed, by decide⟩
  refine ⟨⟨⟨c, _, chars, notBlank, notMark⟩, oneLine⟩, fun closes => ?_, fun opens => ?_⟩
  · rw [chars] at closes
    exact absurd (List.cons.inj closes).2 (List.append_ne_nil_of_right_ne_nil _ (by decide))
  · obtain ⟨before, same⟩ := opens
    rw [chars, List.append_cons, ← List.cons_append] at same
    exact absurd (List.append_inj' same rfl).2 (by decide)

/-- The layout of a worded member is tidy. -/
theorem Member.tidy_code {m : Member} (worded : m.Worded) : m.code.Tidy := by
  have isPublic : Word "public " := by decide
  have declared {type name : String} (isType : Word type) (isName : Word name) :
      Word ("public " ++ type ++ " " ++ name) :=
    ((isPublic.append isType.clean).append (by decide)).append isName.clean
  cases m with
  | field attributes modifiers type name initial =>
    obtain ⟨isWord, isModifier, isType, isName, isInitial⟩ := worded
    refine Code.tidy_ofLines (List.forall_mem_append.mpr
      ⟨isWord, List.forall_mem_singleton.mpr ?_⟩)
    simp only [String.append_assoc]
    refine isModifier.append ?_
    cases initial with
    | none => simp +decide [isType.clean, isName.clean]
    | some value =>
      simp +decide [isType.clean, isName.clean, (value.word_text (isInitial value rfl)).clean]
  | enumValue name value =>
    have line : Word (name ++ " = " ++ value ++ ",") :=
      ((worded.1.append (by decide)).append worded.2.clean).append (by decide)
    exact ⟨line.plain, trivial⟩
  | abstractMethod signature =>
    have line : Word ("public abstract " ++ signature.text ++ ";") :=
      (Word.append (by decide) (Signature.word_text worded).clean).append (by decide)
    exact ⟨line.plain, trivial⟩
  | method modifiers signature body =>
    have header : Word (modifiers ++ " " ++ signature.text) :=
      (worded.1.append (by decide)).append (Signature.word_text worded.2.1).clean
    exact ⟨header.plain.toOneLine, Block.tidy_code worded.2.2, trivial⟩
  | constructor type params body =>
    have header : Word ("public " ++ type ++ "(" ++ paramList params ++ ")") := by
      simp only [String.append_assoc]
      exact isPublic.append (by simp +decide [worded.1.clean, clean_paramList worded.2.1])
    exact ⟨header.plain.toOneLine, Block.tidy_code worded.2.2, trivial⟩
  | property type name value =>
    have header := declared worded.1 worded.2.1
    have getter : Plain ("get \x7b return " ++ value.text ++ "; \x7d") := by
      have front : OneLine "get \x7b return " := ⟨⟨'g', _, rfl, by decide, by decide⟩, by decide⟩
      have ending : "; \x7d" = "; " ++ "\x7d" := by decide
      have noFeed : '\n' ∉ (value.text ++ "; ").toList := by
        rw [String.toList_append, List.mem_append, not_or]
        exact ⟨(value.word_text worded.2.2).plain.noFeed, by decide⟩
      rw [ending, String.append_assoc, ← @String.append_assoc value.text]
      exact front.plain_append_closed noFeed
    exact ⟨header.plain.toOneLine, ⟨getter, trivial⟩, trivial⟩
  | slot type name =>
    have line : Plain ("public " ++ type ++ " " ++ name ++ " \x7b get; set; \x7d") :=
      @OneLine.plain_append_closed _ " \x7b get; set; " (declared worded.1 worded.2).plain.toOneLine
        (by decide)
    exact ⟨line, trivial⟩
  | abstractEvent type name =>
    have line : Word ("public abstract event " ++ type ++ " " ++ name ++ ";") := by
      have begins : Word "public abstract event " := by decide
      simp only [String.append_assoc]
      exact begins.append (by simp +decide [worded.1.clean, worded.2.clean])
    exact ⟨line.plain, trivial⟩
  | event modifiers type name add remove =>
    obtain ⟨isModifier, isType, isName, addWorded, removeWorded⟩ := worded
    have header : Word (modifiers ++ " event " ++ type ++ " " ++ name) := by
      simp only [String.append_assoc]
      exact isModifier.append (by simp +decide [isType.clean, isName.clean])
    have isAdd : Word "add" := by decide
    have isRemove : Word "remove" := by decide
    exact ⟨header.plain.toOneLine, ⟨isAdd.plain.toOneLine, Block.tidy_code addWorded,
      isRemove.plain.toOneLine, Block.tidy_code removeWorded, trivial⟩, trivial⟩
  | delegate d => exact Code.tidy_ofLines (Delegate.word_lines worded)

/-! ### Types and chapters -/

/-- A type that holds words only, and clean titles. -/
structure TypeDecl.Worded (decl : TypeDecl) : Prop where
  attributes : ∀ text ∈ decl.attributes, Word text
  name : Word decl.name
  base : ∀ text ∈ decl.base, Word text
  titles : ∀ title ∈ decl.body.filterMap Section.title?, Clean title
  members : ∀ m ∈ decl.members, m.Worded

/-- The layout of a worded type is tidy. -/
theorem TypeDecl.tidy_code {decl : TypeDecl} (worded : decl.Worded) : decl.code.Tidy := by
  have words : Word decl.sort.words := by cases decl.sort <;> decide
  have header : Word decl.header := by
    simp only [TypeDecl.header, String.append_assoc]
    refine words.append ?_
    cases base : decl.base with
    | none => simp +decide [worded.name.clean]
    | some text => simp +decide [worded.name.clean, (worded.base text base).clean]
  have body : (Section.codes Member.code decl.body).Tidy :=
    Section.tidy_codes worded.titles fun m isMember => Member.tidy_code (worded.members m isMember)
  exact Code.tidy_append (Code.tidy_ofLines worded.attributes)
    ⟨header.plain.toOneLine, body, trivial⟩

/-- A declaration that holds words only. -/
def Declaration.Worded : Declaration → Prop
  | .type decl => decl.Worded
  | .delegate d => d.Worded

theorem Declaration.tidy_code {declaration : Declaration} (worded : declaration.Worded) :
    declaration.code.Tidy := by
  cases declaration with
  | type decl => exact TypeDecl.tidy_code worded
  | delegate d => exact Code.tidy_ofLines (Delegate.word_lines worded)

/-- A chapter that holds words only, and clean titles. -/
structure Chapter.Worded (chapter : Chapter) : Prop where
  title : Clean chapter.title
  titles : ∀ title ∈ chapter.body.filterMap Section.title?, Clean title
  declarations : ∀ declaration ∈ chapter.declarations, declaration.Worded

/-- The layout of a worded chapter is tidy. -/
theorem Chapter.tidy_code {chapter : Chapter} (worded : chapter.Worded) : chapter.code.Tidy := by
  have noMark : ∀ c ∈ marks, c ∉ chapter.title.toList :=
    fun c isMark isChar => worded.title c isChar isMark
  exact ⟨⟨noMark _ (by decide), noMark _ (by decide)⟩, Section.tidy_codes worded.titles
    fun declaration isEntry => Declaration.tidy_code (worded.declarations declaration isEntry),
    trivial⟩

end InteropGlue.CSharp
