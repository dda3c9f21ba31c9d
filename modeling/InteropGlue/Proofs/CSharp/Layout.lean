import InteropGlue.CSharp.Print
import InteropGlue.Proofs.CSharp.Arrangement
/-!
# Lines of laid-out code

Writing code to a sink adds lines to its text and leaves its indentation as it was, because blocks
close what they open. So the text of code is read off its lines, and the lines of a part stand
together among those of the whole.

## Main Definitions

* `Line` — a line with its indentation.
* `Code.lines` — the lines of code at an indentation.

## Main Results

* `Code.write_eq`, `Code.text_eq` — what is written are the lines.
* `TypeDecl.member_lines`, `SourceFile.declaration_lines` — the lines of a part are lines of the
  whole, together and in order.
-/

namespace InteropGlue.CSharp

/-! ### Lines -/

/-- A line of text after an indentation. -/
structure Line where
  indentation : Nat
  text : String
  deriving DecidableEq, Repr

namespace Line

/-- A line as it is written. An empty one has no indentation. -/
def written (line : Line) : String :=
  if line.text.isEmpty then "\n"
  else String.ofList (List.replicate line.indentation ' ') ++ line.text ++ "\n"

/-- The text of lines. -/
def textOf (lines : List Line) : String := String.join (lines.map written)

@[simp] theorem textOf_nil : textOf [] = "" := by simp [textOf]

@[simp] theorem textOf_cons (line : Line) (rest : List Line) :
    textOf (line :: rest) = line.written ++ textOf rest := by
  simp [textOf]

@[simp] theorem textOf_append (lines more : List Line) :
    textOf (lines ++ more) = textOf lines ++ textOf more := by
  simp [textOf]

end Line

theorem pushn_eq_append (text : String) (c : Char) (n : Nat) :
    text.pushn c n = text ++ String.ofList (List.replicate n c) := by
  induction n with
  | zero => simp [String.pushn_eq_repeat_push, Nat.repeat]
  | succ n ih =>
    rw [String.pushn_eq_repeat_push] at ih ⊢
    rw [Nat.repeat, ih, List.replicate_succ', String.ofList_append, ← String.append_assoc,
      String.push_eq_append]
    rfl

/-- A line adds its text to what is written. -/
theorem Sink.writeLine_eq (sink : Sink) (text : String) :
    sink.writeLine text =
      ⟨sink.text ++ Line.written ⟨sink.indentation, text⟩, sink.indentation⟩ := by
  rw [writeLine, Line.written]
  split
  · rw [String.push_eq_append]
    rfl
  · rw [pushn_eq_append, String.push_eq_append, String.append_assoc, String.append_assoc,
      String.append_assoc]
    rfl

theorem Sink.blankLine_eq (sink : Sink) :
    sink.blankLine = ⟨sink.text ++ Line.written ⟨sink.indentation, ""⟩, sink.indentation⟩ := by
  rw [blankLine, String.push_eq_append]
  rfl

namespace Code

/-! ### Lines of code -/

/-- The lines of code at an indentation. -/
def lines (indentation : Nat) : Code → List Line
  | done => []
  | line text rest => ⟨indentation, text⟩ :: rest.lines indentation
  | blank rest => ⟨indentation, ""⟩ :: rest.lines indentation
  | block header body rest =>
    ⟨indentation, header ++ " \x7b"⟩ ::
      (body.lines (indentation + indentWidth) ++ ⟨indentation, "\x7d"⟩ :: rest.lines indentation)
  | region title body rest =>
    ⟨indentation, "#region " ++ title⟩ ::
      (body.lines indentation ++ ⟨indentation, "#endregion"⟩ :: rest.lines indentation)

/-- Writing code adds its lines and leaves the indentation as it was. -/
theorem write_eq (code : Code) (sink : Sink) :
    code.write sink =
      ⟨sink.text ++ Line.textOf (code.lines sink.indentation), sink.indentation⟩ := by
  induction code generalizing sink with
  | done => simp [write, lines]
  | line text rest ih => simp [write, lines, ih, Sink.writeLine_eq, String.append_assoc]
  | blank rest ih => simp [write, lines, ih, Sink.blankLine_eq, String.append_assoc]
  | block header body rest bodyIh restIh =>
    -- The line that closes a block stands at the indentation that the block was opened at.
    simp [write, lines, bodyIh, restIh, Sink.openBlock, Sink.closeBlock, Sink.indent, Sink.outdent,
      Sink.writeLine_eq, String.append_assoc]
  | region title body rest bodyIh restIh =>
    simp [write, lines, bodyIh, restIh, Sink.beginRegion, Sink.endRegion, Sink.writeLine_eq,
      String.append_assoc]

theorem text_eq (code : Code) : code.text = Line.textOf (code.lines 0) := by
  rw [text, write_eq, Sink.empty]
  simp

variable {indentation : Nat}

@[simp] theorem lines_append (code next : Code) :
    (code ++ next).lines indentation = code.lines indentation ++ next.lines indentation := by
  change (code.append next).lines indentation = _
  induction code with
  | done => rfl
  | line text rest ih => simp [append, lines, ih]
  | blank rest ih => simp [append, lines, ih]
  | block header body rest _ ih => simp [append, lines, ih]
  | region title body rest _ ih => simp [append, lines, ih]

@[simp] theorem lines_concat (pieces : List Code) :
    (concat pieces).lines indentation = pieces.flatMap (lines indentation) := by
  induction pieces with
  | nil => rfl
  | cons piece pieces ih =>
    change (piece ++ concat pieces).lines indentation = _
    rw [lines_append, ih, List.flatMap_cons]

end Code

/-! ### Lines of parts -/

variable {α : Type} {layout : α → Code} {indentation : Nat}

theorem Item.mem_filterMap_iff {items : List (Item α)} {value : α} :
    value ∈ items.filterMap Item.value? ↔ .entry value ∈ items := by
  constructor
  · intro member
    obtain ⟨item, isItem, isValue⟩ := List.mem_filterMap.mp member
    cases item with
    | entry other => exact Option.some.inj isValue ▸ isItem
    | blank => simp at isValue
  · exact fun member => List.mem_filterMap.mpr ⟨_, member, rfl⟩

/-- The lines of an entry stand together among the lines of the items. -/
theorem Item.lines_infix {items : List (Item α)} {value : α} (member : .entry value ∈ items) :
    (layout value).lines indentation <:+: (Item.codes layout items).lines indentation := by
  rw [Item.codes, Code.lines_concat]
  exact List.infix_of_mem_flatten (List.mem_map_of_mem (List.mem_map_of_mem member))

/-- The lines of an entry stand together among the lines of a listing, region or not. -/
theorem Section.lines_infix {parts : List (Section α)} {value : α}
    (member : value ∈ parts.flatMap Section.entries) :
    (layout value).lines indentation <:+: (Section.codes layout parts).lines indentation := by
  obtain ⟨part, isPart, isEntry⟩ := List.mem_flatMap.mp member
  have isItem : .entry value ∈ part.items := Item.mem_filterMap_iff.mp isEntry
  rw [Section.codes, Code.lines_concat]
  refine List.IsInfix.trans ?_
    (List.infix_of_mem_flatten (List.mem_map_of_mem (List.mem_map_of_mem isPart)))
  cases part with
  | item single => exact Item.lines_infix isItem
  | region title items =>
    have among : (layout value).lines indentation <:+:
        (Item.codes layout items).lines indentation := Item.lines_infix isItem
    refine among.trans ?_
    exact ⟨[⟨indentation, "#region " ++ title⟩], [⟨indentation, "#endregion"⟩], by
      simp [Code.lines]⟩

/-- The lines of a member stand together among the lines of its type, one level deeper. -/
theorem TypeDecl.member_lines {decl : TypeDecl} {member : Member}
    (declared : member ∈ decl.members) :
    member.code.lines (indentation + indentWidth) <:+: decl.code.lines indentation := by
  have among : member.code.lines (indentation + indentWidth) <:+:
      (Section.codes Member.code decl.body).lines (indentation + indentWidth) :=
    Section.lines_infix declared
  rw [TypeDecl.code, Code.lines_append, Code.lines]
  refine among.trans ?_
  exact ⟨(Code.ofLines decl.attributes).lines indentation ++
    [⟨indentation, decl.header ++ " \x7b"⟩], [⟨indentation, "\x7d"⟩], by simp [Code.lines]⟩

/-- The lines of a declaration stand together among the lines of its file, in the namespace. -/
theorem SourceFile.declaration_lines {file : SourceFile} {declaration : Declaration}
    (declared : declaration ∈ file.declarations) :
    declaration.code.lines indentWidth <:+: file.code.lines 0 := by
  obtain ⟨chapter, isChapter, isEntry⟩ := List.mem_flatMap.mp declared
  have isItem : .entry chapter ∈ Item.spaced file.chapters :=
    Item.mem_filterMap_iff.mp (by rwa [Item.filterMap_spaced])
  have inListing : declaration.code.lines indentWidth <:+:
      (Section.codes Declaration.code chapter.body).lines indentWidth := Section.lines_infix isEntry
  have inChapter : _ <:+: chapter.code.lines indentWidth :=
    inListing.trans ⟨[⟨indentWidth, "#region " ++ chapter.title⟩], [⟨indentWidth, "#endregion"⟩], by
      simp [Chapter.code, Code.lines]⟩
  have inNamespace := inChapter.trans (Item.lines_infix isItem)
  exact inNamespace.trans
    ⟨file.headerCode.lines 0 ++ [⟨0, "namespace " ++ file.namespaceName ++ " \x7b"⟩],
      [⟨0, "\x7d"⟩], by simp [SourceFile.code, Code.lines]⟩

end InteropGlue.CSharp
