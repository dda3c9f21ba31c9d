import Mathlib.Data.List.TakeWhile
import Mathlib.Data.List.Induction
import InteropGlue.Library.TypeText
/-!
# Texts of types read back

The text of a type has one name and marks behind it, and the reader takes the marks off from the
end, with the white space before each. What it leaves is a name, whatever it holds: a stray mark, a
space in the middle, nothing at all. Such a leftover has no white space around it and no array mark
at its end, and this is what carries the file. A text that is written with such a name is read as
what it was written from, and what any text is read as has such a name, so it can be written and
read again.

## Main Definitions

* `TypeRef.ofLevels` — a name under a number of unbound array levels.
* `TypeRef.IsBareName` — a name that is left when no mark can be taken off.
* `TypeRef.Layout` — the marks in the text of a type, and the white space in it.

## Main Results

* `TypeRef.parse_marked` — a name that is written with marks and white space is read as written.
* `TypeRef.exists_parse` — what a text is read as has a bare name in canonical spelling.
* `TypeRef.texts_read_back` — reading inverts writing, in every layout, and what is read from any
  text is read again from its own text.

## Design Notes

A by-reference mark is one character that also may end a name. Behind an array mark or before
another by-reference mark that does no harm, but alone at the end it is the mark. So the names that
may not end in it depend on the layout.
-/

namespace InteropGlue

/-! ### White space at the ends of a text -/

namespace Text

/-- White space of any length. -/
structure Gap where
  text : List Char
  blank : ∀ c ∈ text, isBlank c = true

/-- No white space. -/
def Gap.none : Gap := ⟨[], by simp⟩

@[simp] theorem Gap.text_none : Gap.none.text = [] := rfl

theorem Gap.blank_reverse (gap : Gap) : ∀ c ∈ gap.text.reverse, isBlank c = true := by
  simpa using gap.blank

/-- The text does not begin with white space. -/
def StartsSolid (text : List Char) : Prop := ∀ c ∈ text.head?, isBlank c = false

@[simp] theorem startsSolid_nil : StartsSolid [] := by simp [StartsSolid]

@[simp] theorem startsSolid_cons {c : Char} {rest : List Char} :
    StartsSolid (c :: rest) ↔ isBlank c = false := by
  simp [StartsSolid]

theorem StartsSolid.append {text rest : List Char} (solid : StartsSolid text) (some : text ≠ []) :
    StartsSolid (text ++ rest) := by
  cases text with
  | nil => exact absurd rfl some
  | cons c text => simpa using solid

theorem StartsSolid.of_append {text rest : List Char} (solid : StartsSolid (text ++ rest)) :
    StartsSolid text := by
  cases text with
  | nil => exact startsSolid_nil
  | cons c text => simpa using solid

theorem startsSolid_dropWhile (text : List Char) : StartsSolid (text.dropWhile isBlank) := by
  have first := List.head?_dropWhile_not isBlank text
  intro c isFirst
  rw [Option.mem_def.mp isFirst] at first
  exact first

/-- Dropping from the front leaves the end as it is, if it leaves anything. -/
theorem StartsSolid.reverse_dropWhile {text : List Char} (solid : StartsSolid text.reverse) :
    StartsSolid (text.dropWhile isBlank).reverse := by
  obtain ⟨dropped, split⟩ := List.dropWhile_suffix isBlank (l := text)
  by_cases nothing : text.dropWhile isBlank = []
  · simp [nothing]
  · intro c isLast
    refine solid c ?_
    rw [← split, List.reverse_append, List.head?_append, isLast, Option.some_or]
    rfl

theorem StartsSolid.dropWhile_append {text : List Char} (solid : StartsSolid text)
    {gap : List Char} (blank : ∀ c ∈ gap, isBlank c = true) :
    (gap ++ text).dropWhile isBlank = text := by
  rw [List.dropWhile_append_of_pos blank]
  cases text with
  | nil => rfl
  | cons c rest => simp [startsSolid_cons.mp solid]

/-- Trimming takes the white space from around a text that has none of its own at its ends. -/
theorem trim_surrounded {text : List Char} (begins : StartsSolid text)
    (ends : StartsSolid text.reverse) (lead trail : Gap) :
    trim (lead.text ++ text ++ trail.text) = text := by
  cases text with
  | nil =>
    have blank : ∀ c ∈ lead.text ++ trail.text, isBlank c = true := by
      simpa [or_imp, forall_and] using And.intro lead.blank trail.blank
    have dropped : (lead.text ++ trail.text).dropWhile isBlank = [] :=
      List.dropWhile_eq_nil_iff.mpr blank
    simp [trim, trimStart, trimEnd, dropped]
  | cons c rest =>
    have fromFront :
        trimStart (lead.text ++ c :: rest ++ trail.text) = c :: rest ++ trail.text := by
      rw [trimStart, List.append_assoc]
      exact (begins.append (List.cons_ne_nil _ _)).dropWhile_append lead.blank
    rw [trim, fromFront, trimEnd, List.reverse_append, ends.dropWhile_append trail.blank_reverse,
      List.reverse_reverse]

theorem startsSolid_trim (text : List Char) : StartsSolid (trim text) := by
  have ends : StartsSolid (trimStart text).reverse.reverse := by
    rw [List.reverse_reverse]
    exact startsSolid_dropWhile text
  exact ends.reverse_dropWhile

theorem startsSolid_reverse_trim (text : List Char) : StartsSolid (trim text).reverse := by
  rw [trim, trimEnd, List.reverse_reverse]
  exact startsSolid_dropWhile _

end Text

namespace TypeRef

open Text

/-! ### Names that are left -/

/-- A name under a number of array levels, none of which has a count. -/
def ofLevels (name : String) : Nat → TypeRef
  | 0 => .named name
  | levels + 1 => .array (ofLevels name levels) none

@[simp] theorem innermost_ofLevels (name : String) (levels : Nat) :
    (ofLevels name levels).innermost = name := by
  induction levels with
  | zero => rfl
  | succ levels ih => exact ih

/-- A text from which no mark and no white space can be taken off: it neither begins nor ends with
white space, and it does not end in an array mark. -/
structure IsBareName (name : String) : Prop where
  begins : ∀ c ∈ name.toList.head?, isBlank c = false
  ends : ∀ c ∈ name.toList.getLast?, isBlank c = false
  unmarked : ¬ ['[', ']'] <:+ name.toList

instance (name : String) : Decidable (IsBareName name) :=
  decidable_of_iff
    (name.toList.head?.all (fun c => !isBlank c) = true ∧
      name.toList.getLast?.all (fun c => !isBlank c) = true ∧ ¬ ['[', ']'] <:+ name.toList)
    ⟨fun ⟨begins, ends, unmarked⟩ =>
        ⟨by simpa [Option.all_eq_true] using begins, by simpa [Option.all_eq_true] using ends,
          unmarked⟩,
      fun bare => ⟨by simpa [Option.all_eq_true] using bare.begins,
        by simpa [Option.all_eq_true] using bare.ends, bare.unmarked⟩⟩

theorem IsBareName.endsSolid {name : String} (bare : IsBareName name) :
    StartsSolid name.toList.reverse := by
  intro c isLast
  exact bare.ends c (List.head?_reverse ▸ isLast)

/-- The canonical spellings are bare, none ends in a by-reference mark, and none has another
canonical spelling. -/
theorem canonical_spellings : ∀ entry ∈ primitives,
    IsBareName entry.1 ∧ entry.1.toList.getLast? ≠ some '&' ∧
      canonicalName entry.1 = entry.1 := by
  decide +kernel

/-- The name is its own canonical spelling, or that of a primitive. -/
theorem canonicalName_eq_or_mem (name : String) :
    canonicalName name = name ∨ ∃ entry ∈ primitives, canonicalName name = entry.1 := by
  cases found : canonicalPrimitive? name with
  | none => exact .inl (by rw [canonicalName, found, Option.getD_none])
  | some canonical =>
    obtain ⟨entry, isFound, rfl⟩ := Option.map_eq_some_iff.mp found
    exact .inr ⟨entry, List.mem_of_find?_eq_some isFound, by rw [canonicalName, found]; rfl⟩

theorem canonicalName_canonicalName (name : String) :
    canonicalName (canonicalName name) = canonicalName name := by
  rcases canonicalName_eq_or_mem name with same | ⟨entry, isPrimitive, spelled⟩
  · rw [same, same]
  · rw [spelled]
    exact (canonical_spellings entry isPrimitive).2.2

theorem IsBareName.canonicalName {name : String} (bare : IsBareName name) :
    IsBareName (canonicalName name) := by
  rcases canonicalName_eq_or_mem name with same | ⟨entry, isPrimitive, spelled⟩
  · rwa [same]
  · rw [spelled]
    exact (canonical_spellings entry isPrimitive).1

theorem canonicalName_unreferenced {name : String}
    (unreferenced : name.toList.getLast? ≠ some '&') :
    (TypeRef.canonicalName name).toList.getLast? ≠ some '&' := by
  rcases canonicalName_eq_or_mem name with same | ⟨entry, isPrimitive, spelled⟩
  · rwa [same]
  · rw [spelled]
    exact (canonical_spellings entry isPrimitive).2.1

/-! ### Texts with marks and white space -/

/-- The text of a name with an array mark behind each of some gaps. -/
def marked (name : String) (levels : List Gap) : List Char :=
  name.toList ++ levels.flatMap fun gap => gap.text ++ ['[', ']']

/-- The marks in the text of a type, each with the white space before it, and the white space at
either end. -/
structure Layout where
  lead : Gap
  /-- The gap before each array mark, from the innermost level to the outermost. -/
  levels : List Gap
  /-- The gap before the by-reference mark, where there is one. -/
  mark : Option Gap
  trail : Gap

namespace Layout

/-- The text of a name with the marks of a layout, without the white space at its ends. -/
def body (layout : Layout) (name : String) : List Char :=
  marked name layout.levels ++ (layout.mark.map fun gap => gap.text ++ ['&']).getD []

/-- The text of a name in a layout. -/
def text (layout : Layout) (name : String) : String :=
  String.ofList (layout.lead.text ++ layout.body name ++ layout.trail.text)

/-- The layout without white space. -/
def compact (levels : Nat) (byRef : Bool) : Layout :=
  { lead := .none
    levels := List.replicate levels .none
    mark := if byRef then some .none else none
    trail := .none }

end Layout

theorem marked_append (name : String) (levels : List Gap) (gap : Gap) :
    (marked name (levels ++ [gap])).reverse =
      ']' :: '[' :: (gap.text.reverse ++ (marked name levels).reverse) := by
  simp [marked]

theorem endsSolid_marked {name : String} (bare : IsBareName name) (levels : List Gap) :
    StartsSolid (marked name levels).reverse := by
  induction levels using List.reverseRecOn with
  | nil => simpa [marked] using bare.endsSolid
  | append_singleton levels gap _ =>
    rw [marked_append, startsSolid_cons]
    decide

/-! ### Reading what was written -/

theorem parseReversed_array (rest : List Char) :
    parseReversed (']' :: '[' :: rest) = .array (parseReversed (rest.dropWhile isBlank)) none := by
  rw [parseReversed]

theorem parseReversed_name {name : String} (bare : IsBareName name) :
    parseReversed name.toList.reverse = .named (canonicalName name) := by
  rw [parseReversed]
  · rw [List.reverse_reverse, String.ofList_toList]
  · intro rest isMarked
    refine bare.unmarked ⟨rest.reverse, ?_⟩
    rw [← List.reverse_reverse name.toList, isMarked]
    simp

/-- The array marks are read one by one from the end, and the name that is left is read as it is. -/
theorem parseReversed_marked {name : String} (bare : IsBareName name) (levels : List Gap) :
    parseReversed (marked name levels).reverse = ofLevels (canonicalName name) levels.length := by
  induction levels using List.reverseRecOn with
  | nil => simpa [marked, ofLevels] using parseReversed_name bare
  | append_singleton levels gap ih =>
    rw [marked_append, parseReversed_array,
      (endsSolid_marked bare levels).dropWhile_append gap.blank_reverse, ih, List.length_append]
    rfl

/-- The last character of a name with marks is the by-reference mark only if it ends the name. -/
theorem head?_reverse_marked {name : String} {levels : List Gap}
    (unreferenced : levels = [] → name.toList.getLast? ≠ some '&') :
    (marked name levels).reverse.head? ≠ some '&' := by
  induction levels using List.reverseRecOn with
  | nil => simpa [marked] using unreferenced
  | append_singleton levels gap _ => simp [marked_append]

/-- A name in a layout is read as the layout says, where the text begins with the name or a mark. -/
theorem parse_marked {layout : Layout} {name : String} (bare : IsBareName name)
    (begins : StartsSolid (layout.body name))
    (unreferenced : layout.levels = [] → layout.mark = none → name.toList.getLast? ≠ some '&') :
    parse (layout.text name) =
      (ofLevels (canonicalName name) layout.levels.length, layout.mark.isSome) := by
  have ends := endsSolid_marked bare layout.levels
  obtain ⟨lead, levels, mark, trail⟩ := layout
  cases mark with
  | none =>
    have body : Layout.body ⟨lead, levels, none, trail⟩ name = marked name levels := by
      simp [Layout.body]
    have unmarked := head?_reverse_marked fun empty => unreferenced empty rfl
    rw [body] at begins
    rw [parse, Layout.text, String.toList_ofList, body, trim_surrounded begins ends]
    split
    · next rest isMarked => simp [isMarked] at unmarked
    · exact Prod.ext (parseReversed_marked bare levels) rfl
  | some gap =>
    have body : (Layout.body ⟨lead, levels, some gap, trail⟩ name).reverse =
        '&' :: (gap.text.reverse ++ (marked name levels).reverse) := by
      simp [Layout.body]
    have bodyEnds : StartsSolid (Layout.body ⟨lead, levels, some gap, trail⟩ name).reverse := by
      rw [body, startsSolid_cons]
      decide
    rw [parse, Layout.text, String.toList_ofList, trim_surrounded begins bodyEnds, body]
    refine Prod.ext ?_ rfl
    change parseReversed ((gap.text.reverse ++ (marked name levels).reverse).dropWhile isBlank) = _
    rw [ends.dropWhile_append gap.blank_reverse]
    exact parseReversed_marked bare levels

/-! ### What a text is read as -/

/-- The reader stops at a bare name. Without array marks, the name is the whole text. -/
theorem exists_parseReversed (text : List Char) (ends : StartsSolid text)
    (begins : StartsSolid text.reverse) :
    ∃ name levels, IsBareName name ∧ parseReversed text = ofLevels (canonicalName name) levels ∧
      (levels = 0 → name.toList = text.reverse) := by
  fun_induction parseReversed text with
  | case1 rest ih =>
    have restBegins : StartsSolid rest.reverse := by
      have split : (']' :: '[' :: rest).reverse = rest.reverse ++ ['[', ']'] := by simp
      exact (split ▸ begins).of_append
    obtain ⟨name, levels, bare, parsed, -⟩ :=
      ih (startsSolid_dropWhile rest) restBegins.reverse_dropWhile
    exact ⟨name, levels + 1, bare, by rw [parsed]; rfl, fun impossible => by omega⟩
  | case2 text unmarked =>
    refine ⟨String.ofList text.reverse, 0, ⟨?_, ?_, ?_⟩, rfl, fun _ => String.toList_ofList⟩
    · rw [String.toList_ofList]
      exact begins
    · rw [String.toList_ofList, List.getLast?_reverse]
      exact ends
    · rw [String.toList_ofList]
      rintro ⟨rest, isMarked⟩
      refine unmarked rest.reverse ?_
      rw [← List.reverse_reverse text, ← isMarked]
      simp

/-- What a text is read as is a bare name in canonical spelling under unbound array levels. Where
there is no mark at all, the name does not end in one. -/
theorem exists_parse (text : String) :
    ∃ name levels byRef, IsBareName name ∧ canonicalName name = name ∧
      (levels = 0 → byRef = false → name.toList.getLast? ≠ some '&') ∧
      parse text = (ofLevels name levels, byRef) := by
  have begins := startsSolid_trim text.toList
  have ends := startsSolid_reverse_trim text.toList
  rw [← List.reverse_reverse (trim text.toList)] at begins
  rw [parse]
  generalize (trim text.toList).reverse = backwards at begins ends
  split
  · next rest =>
    have restBegins : StartsSolid rest.reverse := by
      rw [List.reverse_cons] at begins
      exact begins.of_append
    obtain ⟨name, levels, bare, parsed, -⟩ := exists_parseReversed _ (startsSolid_dropWhile rest)
      restBegins.reverse_dropWhile
    exact ⟨canonicalName name, levels, true, bare.canonicalName, canonicalName_canonicalName name,
      fun _ marked => absurd marked (by decide), by rw [parsed]⟩
  · next unmarked =>
    obtain ⟨name, levels, bare, parsed, whole⟩ := exists_parseReversed backwards ends begins
    refine ⟨canonicalName name, levels, false, bare.canonicalName, canonicalName_canonicalName name,
      fun bareLevel _ => canonicalName_unreferenced ?_, by rw [parsed]⟩
    rw [whole bareLevel, List.getLast?_reverse]
    intro isMarked
    obtain ⟨rest, rfl⟩ := List.head?_eq_some_iff.mp isMarked
    exact unmarked rest rfl

/-- A by-reference mark put behind a text that has none makes no other difference to its reading. -/
theorem parse_append_mark {text : String} (unmarked : (parse text).2 = false) :
    parse (text ++ "&") = ((parse text).1, true) := by
  have solid : isBlank '&' = false := by decide
  have fromFront : trimStart (text.toList ++ ['&']) = trimStart text.toList ++ ['&'] := by
    rw [trimStart, List.dropWhile_append]
    split <;> simp_all [trimStart]
  have trimmed : (trim (text ++ "&").toList).reverse = '&' :: (trimStart text.toList).reverse := by
    simp [trim, trimEnd, fromFront, solid]
  have ends : (trimStart text.toList).reverse.dropWhile isBlank = (trim text.toList).reverse := by
    rw [trim, trimEnd, List.reverse_reverse]
  rw [parse, trimmed]
  simp only [ends]
  rw [parse] at unmarked ⊢
  split
  · next isMarked => simp [isMarked] at unmarked
  · rfl

/-! ### Writing and reading -/

theorem toList_spelling_ofLevels (name : String) (levels : Nat) :
    (ofLevels name levels).spelling.toList = marked name (List.replicate levels .none) := by
  induction levels with
  | zero => simp [ofLevels, spelling, marked]
  | succ levels ih =>
    rw [ofLevels, spelling, String.toList_append, ih, List.replicate_succ']
    simp [marked]

/-- The text of a type is the one in the layout without white space. -/
theorem render_ofLevels (name : String) (levels : Nat) (byRef : Bool) :
    render (ofLevels name levels) byRef = (Layout.compact levels byRef).text name := by
  rw [← String.toList_inj, Layout.text, String.toList_ofList]
  cases byRef <;>
    simp [render, toList_spelling_ofLevels, Layout.compact, Layout.body]

theorem startsSolid_body {name : String} (bare : IsBareName name) (some : name ≠ "")
    (layout : Layout) : StartsSolid (layout.body name) := by
  rw [Layout.body, marked, List.append_assoc]
  exact StartsSolid.append bare.begins (by simpa using some)

/-- Without white space a text begins with its name, with a mark, or not at all. -/
theorem startsSolid_body_compact {name : String} (bare : IsBareName name) (levels : Nat)
    (byRef : Bool) : StartsSolid ((Layout.compact levels byRef).body name) := by
  by_cases empty : name = ""
  · have bracket : isBlank '[' = false := by decide
    have ampersand : isBlank '&' = false := by decide
    cases levels <;> cases byRef <;>
      simp [empty, Layout.compact, Layout.body, marked, List.replicate_succ, bracket, ampersand]
  · exact startsSolid_body bare empty _

/-- Reading the text of a type gives back what the text was written from, and writing what was read
from any text gives a text that is read as the same. -/
theorem texts_read_back :
    (∀ text : String,
      parse (render (parse text).1 (parse text).2) = parse text ∧
        IsBareName (parse text).1.innermost ∧
        canonicalName (parse text).1.innermost = (parse text).1.innermost) ∧
    ∀ (layout : Layout) (name : String), name ≠ "" → IsBareName name →
      (layout.levels = [] → layout.mark = none → name.toList.getLast? ≠ some '&') →
      parse (layout.text name) =
        (ofLevels (canonicalName name) layout.levels.length, layout.mark.isSome) := by
  constructor
  · intro text
    obtain ⟨name, levels, byRef, bare, canonical, unreferenced, parsed⟩ := exists_parse text
    have readAgain :
        parse ((Layout.compact levels byRef).text name) = (ofLevels name levels, byRef) := by
      rw [parse_marked bare (startsSolid_body_compact bare levels byRef), canonical]
      · cases byRef <;> simp [Layout.compact]
      · simpa [Layout.compact] using unreferenced
    rw [parsed, innermost_ofLevels, render_ofLevels, readAgain]
    exact ⟨rfl, bare, canonical⟩
  · intro layout name some bare unreferenced
    exact parse_marked bare (startsSolid_body bare some layout) unreferenced

end TypeRef

namespace Sample

/-- Two array marks and a by-reference mark, with white space of five kinds. -/
def spaced : TypeRef.Layout :=
  { lead := ⟨[' ', '\u3000'], List.all_eq_true.mp (by decide)⟩
    levels := [⟨['\u00a0'], List.all_eq_true.mp (by decide)⟩, .none]
    mark := some ⟨['\t'], List.all_eq_true.mp (by decide)⟩
    trail := ⟨['\n'], List.all_eq_true.mp (by decide)⟩ }

/-- Another spelling of a primitive is read as canonical also under marks and in white space. -/
theorem spaced_int_reads :
    "Int32" ≠ "" ∧ TypeRef.IsBareName "Int32" ∧ "Int32".toList.getLast? ≠ some '&' ∧
      spaced.text "Int32" = " \u3000Int32\u00a0[][]\t&\n" ∧
      TypeRef.parse (spaced.text "Int32") =
        (.array (.array (.named "int") none) none, true) := by
  have bare : TypeRef.IsBareName "Int32" := by decide +kernel
  have unreferenced : "Int32".toList.getLast? ≠ some '&' := by decide +kernel
  have canonical : TypeRef.canonicalName "Int32" = "int" := by decide +kernel
  refine ⟨by decide, bare, unreferenced, by decide +kernel, ?_⟩
  rw [TypeRef.texts_read_back.2 spaced "Int32" (by decide) bare fun _ _ => unreferenced, canonical]
  rfl

end Sample

end InteropGlue
