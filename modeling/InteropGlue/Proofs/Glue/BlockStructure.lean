import InteropGlue.Proofs.Glue.Targets
import InteropGlue.Proofs.Glue.WordedSource
/-!
# Block structure of generated source

A file is a preamble of comments, imports and aliases, and a namespace. What stands in the namespace
is laid-out code that holds words only, so from the line that opens the namespace on, every line
stands where the open blocks put it, and nothing is closed that is not open. The preamble cannot be
mistaken for the namespace: a line of a license text is a comment, whatever it holds.

## Main Definitions

* `BlocksNest` — how the lines of a source nest.

## Main Results

* `SourceFile.nests` — a file of worded chapters nests.
* `Library.source_nests` — the source for a library nests.

## Design Notes

No condition is put on the license text. It may hold braces and white space, and only its comment
marks keep them apart from the code.
-/

namespace InteropGlue

open CSharp

/-! ### Nested sources -/

/-- The line that begins a namespace. -/
def namespaceLine (name : String) : String := "namespace " ++ name ++ " \x7b"

/-- A source falls into a preamble and a namespace, and from the line that begins the namespace on
the lines nest. The namespace stays open up to the last line, which closes it and leaves nothing
open. -/
structure BlocksNest (name source : String) (preamble inner : List (List Char)) : Prop where
  lines : Text.splitAtFeeds source.toList =
    preamble ++ (namespaceLine name).toList :: (inner ++ [['\x7d'], []])
  preamble : ∀ line ∈ preamble, ¬ "namespace ".toList <+: line
  within : ∀ part, part <+: inner → ∃ opened,
    follow [] ((namespaceLine name).toList :: part) = some (opened ++ [.block])
  body : follow [] ((namespaceLine name).toList :: inner) = some [.block]
  whole : follow [] ((namespaceLine name).toList :: (inner ++ [['\x7d']])) = some []

/-! ### Preamble -/

/-- A text is one line and does not begin like that of a namespace. -/
def IsPreamble (text : String) : Prop := '\n' ∉ text.toList ∧ text.toList.head? ≠ some 'n'

theorem IsPreamble.not_namespace {text : String} (isPreamble : IsPreamble text) :
    ¬ "namespace ".toList <+: text.toList := by
  rintro ⟨rest, shape⟩
  exact isPreamble.2 (shape ▸ rfl)

theorem notMem_splitAtFeeds (text : List Char) :
    ∀ piece ∈ Text.splitAtFeeds text, '\n' ∉ piece := by
  induction text with
  | nil => simp [Text.splitAtFeeds]
  | cons c text ih =>
    rw [Text.splitAtFeeds]
    split
    · exact List.forall_mem_cons.mpr ⟨List.not_mem_nil, ih⟩
    · rename_i notFeed
      cases pieces : Text.splitAtFeeds text with
      | nil => simpa using Ne.symm notFeed
      | cons piece pieces =>
        rw [pieces] at ih
        obtain ⟨first, others⟩ := List.forall_mem_cons.mp ih
        exact List.forall_mem_cons.mpr ⟨by simp [first, Ne.symm notFeed], others⟩

theorem dropReturn_subset (piece : List Char) : Text.dropReturn piece ⊆ piece := by
  unfold Text.dropReturn
  split
  · rename_i rest shape
    intro c isChar
    have inReverse : c ∈ piece.reverse :=
      shape ▸ List.mem_cons_of_mem _ (List.mem_reverse.mp isChar)
    exact List.mem_reverse.mp inReverse
  · exact List.Subset.refl piece

theorem notMem_lines (text : List Char) : ∀ line ∈ Text.lines text, '\n' ∉ line := by
  unfold Text.lines
  split
  · exact List.forall_mem_nil _
  · refine List.forall_mem_map.mpr fun piece isPiece isFeed => ?_
    exact notMem_splitAtFeeds text piece isPiece (dropReturn_subset piece isFeed)

/-- The comment at the top of a file is a preamble, whatever the license text holds. -/
theorem isPreamble_headerComment (license : Option String) :
    ∀ text ∈ headerComment license, IsPreamble text := by
  cases license with
  | none =>
    show ∀ text ∈ generatedNotice, '\n' ∉ text.toList ∧ text.toList.head? ≠ some 'n'
    decide
  | some license =>
    refine List.forall_mem_map.mpr fun line isLine => ?_
    unfold commentLine
    split
    · exact ⟨by decide, by decide⟩
    · constructor
      · rw [String.toList_append, List.mem_append, not_or, @String.toList_ofList line]
        exact ⟨by decide, notMem_lines _ line isLine⟩
      · rw [String.toList_append]
        exact fun isName => absurd (Option.some.inj isName) (by decide)

/-- The texts of the lines above the namespace. -/
def CSharp.SourceFile.preambleTexts (file : SourceFile) : List String :=
  file.comment ++ "" :: (file.usings.map (fun name => "using " ++ name ++ ";") ++
    "" :: (file.aliases.map aliasLine ++ [""]))

theorem CSharp.Code.lines_ofLines (texts : List String) (indentation : Nat) :
    (Code.ofLines texts).lines indentation = texts.map (⟨indentation, ·⟩) := by
  induction texts with
  | nil => rfl
  | cons text texts ih =>
    rw [List.map_cons, ← ih]
    rfl

theorem CSharp.SourceFile.headerCode_lines (file : SourceFile) :
    file.headerCode.lines 0 = file.preambleTexts.map (⟨0, ·⟩) := by
  simp [headerCode, preambleTexts, Code.lines, Code.lines_ofLines]

theorem CSharp.Line.chars_zero (text : String) : Line.chars ⟨0, text⟩ = text.toList := by
  by_cases isEmpty : text.isEmpty = true
  · rw [Line.chars, if_pos isEmpty, String.isEmpty_iff.mp isEmpty]
    rfl
  · rw [Line.chars, if_neg isEmpty]
    rfl

/-! ### Files -/

/-- A file of worded chapters nests below its preamble. -/
theorem CSharp.SourceFile.nests {file : SourceFile} (name : Word file.namespaceName)
    (preamble : ∀ text ∈ file.preambleTexts, IsPreamble text)
    (chapters : ∀ chapter ∈ file.chapters, chapter.Worded) :
    ∃ inner,
      BlocksNest file.namespaceName file.text (file.preambleTexts.map String.toList) inner := by
  have header : Word ("namespace " ++ file.namespaceName) := Word.append (by decide) name.clean
  have oneLine := header.plain.toOneLine
  have tidy : (Item.codes Chapter.code (Item.spaced file.chapters)).Tidy := by
    refine Item.tidy_codes fun chapter isEntry => ?_
    rw [Item.filterMap_spaced] at isEntry
    exact Chapter.tidy_code (chapters chapter isEntry)
  let inner := ((Item.codes Chapter.code (Item.spaced file.chapters)).lines indentWidth).map
    Line.chars
  have keeps : Keeps [.block] inner := Code.keeps_lines tidy [.block]
  have opens : advance [] (namespaceLine file.namespaceName).toList = some [.block] := by
    rw [← Line.chars_zero]
    exact oneLine.advance_header
  have closes : advance [.block] ['\x7d'] = some [] := @advance_close []
  have lines : file.code.lines 0 = file.preambleTexts.map (⟨0, ·⟩) ++
      ⟨0, namespaceLine file.namespaceName⟩ ::
        ((Item.codes Chapter.code (Item.spaced file.chapters)).lines indentWidth ++
          [⟨0, "\x7d"⟩]) := by
    rw [SourceFile.code, Code.lines_append, headerCode_lines]
    rfl
  have noFeed : ∀ line ∈ file.code.lines 0, '\n' ∉ line.text.toList := by
    have block : (Code.block ("namespace " ++ file.namespaceName) _ .done).Tidy :=
      ⟨oneLine, tidy, trivial⟩
    rw [SourceFile.code, Code.lines_append, headerCode_lines, List.forall_mem_append]
    exact ⟨List.forall_mem_map.mpr fun text isText => (preamble text isText).1,
      Code.noFeed_lines block⟩
  refine ⟨inner, ?_, ?_, fun part isPart => ?_, ?_, (Keeps.between opens keeps closes).whole⟩
  · rw [SourceFile.text, Code.text_eq, Line.splitAtFeeds_textOf noFeed, lines]
    simp [inner, Line.chars_zero, Function.comp_def]
  · exact List.forall_mem_map.mpr fun text isText => (preamble text isText).not_namespace
  · rw [follow_cons, opens]
    exact keeps.within part isPart
  · rw [follow_cons, opens]
    exact keeps.whole

/-! ### Generated source -/

theorem isPreamble_using {text : String} (clean : Clean text) : IsPreamble ("using " ++ text) := by
  constructor
  · rw [String.toList_append, List.mem_append, not_or]
    exact ⟨by decide, fun isFeed => clean _ isFeed (by decide)⟩
  · rw [String.toList_append]
    exact fun isName => absurd (Option.some.inj isName) (by decide)

/-- What is above the namespace is a preamble. -/
theorem isPreamble_preambleTexts {output : OutputDecl} {aliases : List AliasDecl}
    (usings : Words output.usings) (words : Words (aliases.flatMap AliasDecl.strings)) :
    ∀ text ∈ (emptyFile output aliases).preambleTexts, IsPreamble text := by
  have empty : IsPreamble "" := ⟨by decide, by decide⟩
  have given : ∀ entry ∈ nativeAliases, Word entry.1 ∧ Word entry.2 := by decide
  have named : ∀ decl ∈ aliases, Word decl.name ∧ Word decl.target := by
    simpa [AliasDecl.strings] using words
  have aliased {entry : String × String} (isWord : Word entry.1 ∧ Word entry.2) :
      IsPreamble (aliasLine entry) := by
    simp only [aliasLine, String.append_assoc]
    exact isPreamble_using (by simp +decide [isWord.1.clean, isWord.2.clean])
  simp only [SourceFile.preambleTexts, emptyFile, List.forall_mem_append, List.forall_mem_cons,
    List.forall_mem_map, List.map_append, List.map_map]
  refine ⟨isPreamble_headerComment _, empty, fun name isUsing => ?_, empty,
    ⟨fun entry isGiven => aliased (given entry isGiven),
      fun decl declared => aliased (named decl declared)⟩, empty,
    List.forall_mem_nil _⟩
  rw [String.append_assoc]
  exact isPreamble_using (clean_append.mpr ⟨(usings name isUsing).clean, by decide⟩)

namespace Library

/-- The source for a library, aliases and an output with a target, in all of which there are words
only, nests. Where a block is closed, there is always an indentation to take back. -/
theorem source_nests {lib : Library} {output : OutputDecl} {aliases : List AliasDecl}
    (nonempty : output.targets ≠ [])
    (words : Words (lib.strings ++ output.strings ++ aliases.flatMap AliasDecl.strings)) :
    (∃ source preamble inner, lib.source output aliases = .ok source ∧
      BlocksNest output.namespaceName source preamble inner) ∧
      ∀ (header : String) (body : Code) (sink : Sink),
        (body.write (sink.openBlock header)).indentation = sink.indentation + indentWidth := by
  rw [words_append, words_append] at words
  obtain ⟨⟨ofLibrary, ofOutput⟩, ofAliases⟩ := words
  obtain ⟨name, stem, usings⟩ : Word output.namespaceName ∧ Word output.library ∧
      Words output.usings := by simpa [OutputDecl.strings] using ofOutput
  obtain ⟨target, -, generated⟩ := lib.sourceFile?_of_targets output aliases nonempty
  have chapters : ∀ chapter ∈ lib.applicationChapter ⟨output.library⟩ target ::
      output.targets.eraseDups.map (lib.nativeChapter ⟨output.library⟩), chapter.Worded :=
    List.forall_mem_cons.mpr ⟨worded_applicationChapter ofLibrary stem,
      List.forall_mem_map.mpr fun _ _ => worded_nativeChapter ofLibrary stem⟩
  let file : SourceFile := { emptyFile output aliases with
    chapters := lib.applicationChapter ⟨output.library⟩ target ::
      output.targets.eraseDups.map (lib.nativeChapter ⟨output.library⟩) }
  have isFile : lib.sourceFile? output aliases = some file := generated
  obtain ⟨inner, nests⟩ := @SourceFile.nests file name
    (isPreamble_preambleTexts usings ofAliases) chapters
  refine ⟨⟨file.text, _, inner, by rw [source, isFile], nests⟩, fun header body sink => ?_⟩
  · rw [Code.write_eq, Sink.openBlock, Sink.writeLine_eq]
    rfl

end Library

namespace Sample

/-- A library with arrays of arrays in a class, a handle in an event, and an annotated buffer. -/
def grid : Library :=
  { functions :=
      [{ name := "Read"
         returnType := .named "bool"
         params :=
           [⟨"vmid", .named "int", .input, none⟩, ⟨"cells", .named "Cells", .byRef, none⟩,
             ⟨"text", .named "StringBuilder", .buffer, some ⟨"LPWStr", some 16, none⟩⟩]
         returnMarshal := none }]
    events :=
      [⟨"Moved", ⟨"MovedEventHandler", .named "void",
        [⟨"vmid", .named "int", .input, none⟩, ⟨"source", .named handleType, .input, none⟩],
        none⟩⟩]
    enums := [⟨"Mode", .named "int", false, [⟨"Idle", "0"⟩]⟩]
    structs := [⟨"Point", [⟨"x", .named "int", none⟩]⟩]
    classes :=
      [⟨"Cells", [⟨"size", .named "int", none⟩,
        ⟨"points", .array (.array (.named "Point") none) (some "size"), none⟩]⟩]
    aliases := ["Handle"] }

/-- An output of both surfaces with a license that looks like code. -/
def gridOutput : OutputDecl :=
  { namespaceName := "Demo"
    library := "Demo"
    file := "Demo.cs"
    license := some "namespace Demo \x7b\n  #region\n\x7d"
    usings := ["System"]
    targets := [.legacy, .modern] }

/-- The source of the library nests below its license. -/
theorem grid_nests :
    gridOutput.targets ≠ [] ∧
      Words (grid.strings ++ gridOutput.strings ++
        [AliasDecl.mk "Handle" "System.IntPtr"].flatMap AliasDecl.strings) ∧
      ∃ source preamble inner,
        grid.source gridOutput [⟨"Handle", "System.IntPtr"⟩] = .ok source ∧
          BlocksNest "Demo" source preamble inner := by
  have nonempty : gridOutput.targets ≠ [] := by decide
  have words : Words (grid.strings ++ gridOutput.strings ++
      [AliasDecl.mk "Handle" "System.IntPtr"].flatMap AliasDecl.strings) := by decide +kernel
  exact ⟨nonempty, words, (Library.source_nests nonempty words).1⟩

end Sample

end InteropGlue
