import InteropGlue.Proofs.CSharp.Layout
import InteropGlue.Text.Blank
import Mathlib.Data.List.Infix
/-!
# Nesting of blocks and regions

Where blocks and regions begin and end can be read off the lines of a text alone. A reader who keeps
a stack of what is open knows how far the next line has to be indented, and refuses a line that
stands elsewhere or closes what is not open on top. Laid-out code is never refused, and leaves the
stack as it was: a block and a region close what they open, and no other line looks like one that
opens or closes.

## Main Definitions

* `Opening`, `depth` — what is open, and how many blocks of it.
* `advance`, `follow` — what is open after a line and after lines, unless one is refused.
* `Keeps` — lines that are followed without closing anything that was open before them.
* `Code.Tidy` — code whose texts look like no line that opens or closes.

## Main Results

* `Code.keeps_lines` — the lines of tidy code keep what is open.
* `Line.splitAtFeeds_textOf` — a text of lines falls into these lines.

## Design Notes

The reader knows nothing of the code. What opens a block is the end of a line, what closes one is
the whole line behind its spaces, and what opens or closes a region is the beginning of a line.
Blocks and regions share one stack. So a region is closed only by a line at the block depth of the
line that opened it, with everything between them closed.
-/

namespace InteropGlue.CSharp

/-! ### Reading lines -/

/-- Something that a line opened and no line has closed yet. -/
inductive Opening
  | block
  | region
  deriving DecidableEq, Repr

/-- The number of open blocks. -/
def depth (opened : List Opening) : Nat := opened.count .block

/-- What is left open when the last opening, of a given sort, is closed. -/
def closing (sort : Opening) : List Opening → Option (List Opening)
  | [] => none
  | last :: outer => if last = sort then some outer else none

/-- The white space before a line: two spaces for each open block. -/
def margin (opened : List Opening) : List Char := List.replicate (2 * depth opened) ' '

/-- What is open after a text behind white space. The line that closes a block stands where the
block was opened, and every other one where the open blocks put it. -/
def advanceText (opened : List Opening) (space text : List Char) : Option (List Opening) :=
  if text = ['\x7d'] then (closing .block opened).filter fun outer => space == margin outer
  else if space ≠ margin opened then none
  else if [' ', '\x7b'] <:+ text then some (.block :: opened)
  else if "#region".toList <+: text then some (.region :: opened)
  else if "#endregion".toList <+: text then closing .region opened
  else some opened

/-- What is open after a line. An empty one changes nothing. -/
def advance (opened : List Opening) (line : List Char) : Option (List Opening) :=
  if line = [] then some opened
  else advanceText opened (line.takeWhile Text.isBlank) (line.dropWhile Text.isBlank)

/-- What is open after lines. -/
def follow (opened : List Opening) (lines : List (List Char)) : Option (List Opening) :=
  lines.foldlM advance opened

theorem follow_nil (opened : List Opening) : follow opened [] = some opened := rfl

theorem follow_cons (opened : List Opening) (line : List Char) (lines : List (List Char)) :
    follow opened (line :: lines) = (advance opened line).bind (follow · lines) := by
  rw [follow, List.foldlM_cons]
  rfl

theorem follow_append (opened : List Opening) (lines more : List (List Char)) :
    follow opened (lines ++ more) = (follow opened lines).bind (follow · more) := by
  rw [follow, List.foldlM_append]
  rfl

/-- Lines that are followed to where they began, and on the way close nothing that was open. -/
structure Keeps (opened : List Opening) (lines : List (List Char)) : Prop where
  whole : follow opened lines = some opened
  within : ∀ part, part <+: lines → ∃ inner, follow opened part = some (inner ++ opened)

namespace Keeps

variable {opened : List Opening} {lines more : List (List Char)}

theorem nil : Keeps opened [] where
  whole := rfl
  within part isPart := ⟨[], by rw [List.prefix_nil.mp isPart, follow_nil, List.nil_append]⟩

theorem append (first : Keeps opened lines) (second : Keeps opened more) :
    Keeps opened (lines ++ more) where
  whole := by rw [follow_append, first.whole, Option.bind_some, second.whole]
  within part isPart := by
    rcases List.prefix_or_prefix_of_prefix isPart (List.prefix_append lines more) with
      within | ⟨rest, rfl⟩
    · exact first.within part within
    · obtain ⟨inner, followed⟩ :=
        second.within rest ((List.prefix_append_right_inj lines).mp isPart)
      exact ⟨inner, by rw [follow_append, first.whole, Option.bind_some, followed]⟩

/-- Lines between one that opens and one that closes it again. -/
theorem between {opening : Opening} {first last : List Char}
    (opens : advance opened first = some (opening :: opened))
    (inside : Keeps (opening :: opened) lines)
    (closes : advance (opening :: opened) last = some opened) :
    Keeps opened (first :: (lines ++ [last])) where
  whole := by
    rw [follow_cons, opens, Option.bind_some, follow_append, inside.whole, Option.bind_some,
      follow_cons, closes]
    rfl
  within part isPart := by
    cases part with
    | nil => exact ⟨[], rfl⟩
    | cons line part =>
      obtain ⟨rfl, isRest⟩ := List.cons_prefix_cons.mp isPart
      rw [follow_cons, opens, Option.bind_some]
      rcases List.prefix_concat_iff.mp isRest with rfl | within
      · refine ⟨[], ?_⟩
        rw [follow_append, inside.whole, Option.bind_some, follow_cons, closes]
        rfl
      · obtain ⟨inner, followed⟩ := inside.within part within
        exact ⟨inner ++ [opening], by rw [followed, List.append_assoc, List.singleton_append]⟩

/-- A line that opens and closes nothing. -/
theorem single {line : List Char} (stays : advance opened line = some opened) :
    Keeps opened [line] where
  whole := by
    rw [follow_cons, stays]
    rfl
  within part isPart := by
    cases part with
    | nil => exact ⟨[], rfl⟩
    | cons first part =>
      obtain ⟨rfl, isRest⟩ := List.cons_prefix_cons.mp isPart
      rw [List.prefix_nil.mp isRest, follow_cons, stays]
      exact ⟨[], rfl⟩

end Keeps

/-! ### Lines as they are read -/

/-- A text that fits on one line and begins neither with white space nor like the line of a
region. -/
structure OneLine (text : String) : Prop where
  begins : ∃ c rest, text.toList = c :: rest ∧ Text.isBlank c = false ∧ c ≠ '#'
  noFeed : '\n' ∉ text.toList

/-- A text that also does not look like the line that opens or closes a block. -/
structure Plain (text : String) : Prop extends OneLine text where
  notClosing : text.toList ≠ ['\x7d']
  notOpening : ¬ [' ', '\x7b'] <:+ text.toList

/-- A line as it is read, without its line end. -/
def Line.chars (line : Line) : List Char :=
  if line.text.isEmpty then [] else List.replicate line.indentation ' ' ++ line.text.toList

section Reading

variable {opened : List Opening} {text : String}

/-- The white space before a text that does not begin with any is its indentation. -/
theorem advance_chars {c : Char} {rest : List Char} (shape : text.toList = c :: rest)
    (notBlank : Text.isBlank c = false) (indentation : Nat) :
    advance opened (Line.chars ⟨indentation, text⟩) =
      advanceText opened (List.replicate indentation ' ') text.toList := by
  have notEmpty : ¬ text.isEmpty = true := by
    intro isEmpty
    rw [String.toList_eq_nil_iff.mpr (String.isEmpty_iff.mp isEmpty)] at shape
    cases shape
  have spaces : ∀ c ∈ List.replicate indentation ' ', Text.isBlank c = true := fun c isSpace =>
    List.eq_of_mem_replicate isSpace ▸ rfl
  rw [Line.chars, if_neg notEmpty, advance, if_neg (by simp [shape]),
    List.takeWhile_append_of_pos spaces, List.dropWhile_append_of_pos spaces, shape,
    List.takeWhile_cons, List.dropWhile_cons, notBlank]
  simp

theorem OneLine.not_prefix (oneLine : OneLine text) (mark : String)
    (isMark : mark.toList.head? = some '#') : ¬ mark.toList <+: text.toList := by
  rintro ⟨more, shape⟩
  obtain ⟨c, rest, begins, -, notMark⟩ := oneLine.begins
  have first : text.toList.head? = some '#' := by
    rw [← shape, List.head?_append, isMark, Option.some_or]
  rw [begins] at first
  exact notMark (Option.some.inj first)

theorem Plain.advance_chars (plain : Plain text) :
    advance opened (Line.chars ⟨2 * depth opened, text⟩) = some opened := by
  obtain ⟨c, rest, shape, notBlank, -⟩ := plain.begins
  rw [CSharp.advance_chars shape notBlank, advanceText, if_neg plain.notClosing,
    margin, if_neg (not_not.mpr rfl), if_neg plain.notOpening,
    if_neg (plain.not_prefix "#region" rfl), if_neg (plain.not_prefix "#endregion" rfl)]

theorem OneLine.advance_header (oneLine : OneLine text) :
    advance opened (Line.chars ⟨2 * depth opened, text ++ " \x7b"⟩) =
      some (.block :: opened) := by
  obtain ⟨c, rest, begins, notBlank, -⟩ := oneLine.begins
  have shape : (text ++ " \x7b").toList = c :: (rest ++ [' ', '\x7b']) := by
    rw [String.toList_append, begins]
    rfl
  have opens : [' ', '\x7b'] <:+ (text ++ " \x7b").toList := by
    rw [String.toList_append]
    exact List.suffix_append _ _
  have notClosing : (text ++ " \x7b").toList ≠ ['\x7d'] := by
    intro same
    rw [same] at opens
    exact absurd opens (by decide)
  rw [CSharp.advance_chars shape notBlank, advanceText, if_neg notClosing, margin,
    if_neg (not_not.mpr rfl), if_pos opens]

theorem advance_close :
    advance (.block :: opened) (Line.chars ⟨2 * depth opened, "\x7d"⟩) = some opened := by
  have shape : "\x7d".toList = ['\x7d'] := rfl
  rw [advance_chars shape (by decide), advanceText, if_pos shape, closing, if_pos rfl]
  exact Option.filter_some_pos (beq_self_eq_true _)

theorem advance_region {title : String} (noBrace : '\x7b' ∉ title.toList) :
    advance opened (Line.chars ⟨2 * depth opened, "#region " ++ title⟩) =
      some (.region :: opened) := by
  have shape : ("#region " ++ title).toList = '#' :: ("region ".toList ++ title.toList) := by
    rw [String.toList_append]
    rfl
  have notClosing : ("#region " ++ title).toList ≠ ['\x7d'] := by
    rw [shape]
    exact fun same => absurd (List.cons.inj same).1 (by decide)
  have notOpening : ¬ [' ', '\x7b'] <:+ ("#region " ++ title).toList := by
    intro opens
    have isBrace : '\x7b' ∈ ("#region " ++ title).toList := opens.subset (by decide)
    rw [String.toList_append] at isBrace
    rcases List.mem_append.mp isBrace with within | within
    · exact absurd within (by decide)
    · exact noBrace within
  have isRegion : "#region".toList <+: ("#region " ++ title).toList :=
    ⟨' ' :: title.toList, shape.symm⟩
  rw [advance_chars shape (by decide), advanceText, if_neg notClosing, margin,
    if_neg (not_not.mpr rfl), if_neg notOpening, if_pos isRegion]

theorem advance_endRegion :
    advance (.region :: opened) (Line.chars ⟨2 * depth opened, "#endregion"⟩) = some opened := by
  have sameMargin : margin (.region :: opened) = List.replicate (2 * depth opened) ' ' := rfl
  rw [advance_chars rfl (by decide), advanceText, if_neg (by decide), sameMargin,
    if_neg (not_not.mpr rfl), if_neg (by decide), if_neg (by decide), if_pos (by decide), closing,
    if_pos rfl]

end Reading

/-! ### Lines of code -/

namespace Code

/-- No text of the code looks like a line that opens or closes something, and none that opens
something looks like another one. -/
def Tidy : Code → Prop
  | done => True
  | line text rest => Plain text ∧ rest.Tidy
  | blank rest => rest.Tidy
  | block header body rest => OneLine header ∧ body.Tidy ∧ rest.Tidy
  | region title body rest =>
    ('\n' ∉ title.toList ∧ '\x7b' ∉ title.toList) ∧ body.Tidy ∧ rest.Tidy

/-- The lines of tidy code, at the indentation of what is open, keep what is open. -/
theorem keeps_lines {code : Code} (tidy : code.Tidy) (opened : List Opening) :
    Keeps opened ((code.lines (2 * depth opened)).map Line.chars) := by
  induction code generalizing opened with
  | done => exact .nil
  | line text rest ih => exact (Keeps.single tidy.1.advance_chars).append (ih tidy.2 opened)
  | blank rest ih => exact (Keeps.single rfl).append (ih tidy opened)
  | block header body rest bodyIh restIh =>
    obtain ⟨oneLine, bodyTidy, restTidy⟩ := tidy
    have deeper : 2 * depth opened + indentWidth = 2 * depth (.block :: opened) := by
      simp [depth, indentWidth, Nat.mul_add]
    have enclosed := Keeps.between oneLine.advance_header (bodyIh bodyTidy (.block :: opened))
      advance_close
    rw [lines, deeper, List.map_cons, List.map_append, List.map_cons]
    exact List.append_cons _ _ _ ▸ enclosed.append (restIh restTidy opened)
  | region title body rest bodyIh restIh =>
    obtain ⟨⟨-, noBrace⟩, bodyTidy, restTidy⟩ := tidy
    have enclosed := Keeps.between (advance_region noBrace) (bodyIh bodyTidy (.region :: opened))
      advance_endRegion
    rw [lines, List.map_cons, List.map_append, List.map_cons]
    exact List.append_cons _ _ _ ▸ enclosed.append (restIh restTidy opened)

/-- No line of tidy code falls into several. -/
theorem noFeed_lines {code : Code} (tidy : code.Tidy) {indentation : Nat} :
    ∀ line ∈ code.lines indentation, '\n' ∉ line.text.toList := by
  induction code generalizing indentation with
  | done => exact List.forall_mem_nil _
  | line text rest ih => exact List.forall_mem_cons.mpr ⟨tidy.1.noFeed, ih tidy.2⟩
  | blank rest ih => exact List.forall_mem_cons.mpr ⟨by simp, ih tidy⟩
  | block header body rest bodyIh restIh =>
    obtain ⟨oneLine, bodyTidy, restTidy⟩ := tidy
    refine List.forall_mem_cons.mpr ⟨by simp [oneLine.noFeed], List.forall_mem_append.mpr
      ⟨bodyIh bodyTidy, List.forall_mem_cons.mpr ⟨by simp, restIh restTidy⟩⟩⟩
  | region title body rest bodyIh restIh =>
    obtain ⟨⟨noFeed, -⟩, bodyTidy, restTidy⟩ := tidy
    refine List.forall_mem_cons.mpr ⟨by simp [noFeed], List.forall_mem_append.mpr
      ⟨bodyIh bodyTidy, List.forall_mem_cons.mpr ⟨by simp, restIh restTidy⟩⟩⟩

end Code

/-! ### Lines of a text -/

theorem splitAtFeeds_append {piece : List Char} (noFeed : '\n' ∉ piece) (rest : List Char) :
    Text.splitAtFeeds (piece ++ '\n' :: rest) = piece :: Text.splitAtFeeds rest := by
  induction piece with
  | nil => rfl
  | cons c piece ih =>
    rw [List.mem_cons, not_or] at noFeed
    rw [List.cons_append, Text.splitAtFeeds, if_neg (Ne.symm noFeed.1), ih noFeed.2]

theorem Line.written_toList (line : Line) : line.written.toList = line.chars ++ ['\n'] := by
  rw [written, chars]
  split
  · rfl
  · rw [String.toList_append, String.toList_append, String.toList_ofList]
    rfl

/-- A text of lines falls into these lines, and what follows the last line end. -/
theorem Line.splitAtFeeds_textOf {lines : List Line}
    (noFeed : ∀ line ∈ lines, '\n' ∉ line.text.toList) :
    Text.splitAtFeeds (Line.textOf lines).toList = lines.map Line.chars ++ [[]] := by
  induction lines with
  | nil => rfl
  | cons line lines ih =>
    obtain ⟨first, others⟩ := List.forall_mem_cons.mp noFeed
    have noFeed : '\n' ∉ line.chars := by
      rw [chars]
      split
      · exact List.not_mem_nil
      · rw [List.mem_append, not_or]
        exact ⟨fun isSpace => absurd (List.eq_of_mem_replicate isSpace) (by decide), first⟩
    rw [textOf_cons, String.toList_append, written_toList, List.append_assoc, List.singleton_append,
      splitAtFeeds_append noFeed, ih others, List.map_cons, List.cons_append]

end InteropGlue.CSharp
