import InteropGlue.Proofs.CSharp.Words
import InteropGlue.Text.CamelCase
/-!
# Characters of lower camel case

The words of a name hold characters of the name only, and changing their case gives no character
that structures text: no entry of the case mappings has one as its image. So a clean name is clean
in lower camel case.

## Main Results

* `mem_of_mem_wordsOf` — the words of a name hold its characters.
* `notMem_marks_of_mapCase` — when a mapping keeps characters from structuring text.
* `clean_lowerCamel` — lower camel case keeps names clean.
-/

namespace InteropGlue.Text

open CSharp

/-! ### Words -/

theorem mem_of_mem_piecesOf {name : List Char} :
    ∀ piece ∈ piecesOf name, ∀ c ∈ piece, c ∈ name := by
  induction name with
  | nil => simp [piecesOf]
  | cons first name ih =>
    have later : ∀ piece ∈ piecesOf name, ∀ c ∈ piece, c ∈ first :: name :=
      fun piece isPiece c isChar => List.mem_cons_of_mem _ (ih piece isPiece c isChar)
    rw [piecesOf]
    split
    · cases pieces : piecesOf name with
      | nil => simp
      | cons piece pieces =>
        rw [pieces] at later
        obtain ⟨ofFirst, others⟩ := List.forall_mem_cons.mp later
        exact List.forall_mem_cons.mpr
          ⟨List.forall_mem_cons.mpr ⟨List.mem_cons_self, ofFirst⟩, others⟩
    · exact List.forall_mem_cons.mpr ⟨by simp, later⟩

theorem mem_of_mem_wordsFrom {run : LetterRun} {word rest : List Char} :
    ∀ w ∈ wordsFrom run word rest, ∀ c ∈ w, c ∈ word ∨ c ∈ rest := by
  fun_induction wordsFrom run word rest with
  | case1 run word => simp
  | case2 run word last => simp [or_comm]
  | case3 run word c next rest ends ih =>
    refine List.forall_mem_cons.mpr ⟨fun d isChar => ?_, fun w isWord d isChar => ?_⟩
    · rcases List.mem_cons.mp (List.mem_reverse.mp isChar) with rfl | inWord
      · exact .inr List.mem_cons_self
      · exact .inl inWord
    · rcases ih w isWord d isChar with before | after
      · exact absurd before List.not_mem_nil
      · exact .inr (List.mem_cons_of_mem _ after)
  | case4 run word c next rest _ ends ih =>
    refine List.forall_mem_cons.mpr ⟨fun d isChar => .inl (List.mem_reverse.mp isChar),
      fun w isWord d isChar => .inr ?_⟩
    rcases ih w isWord d isChar with isFirst | after
    · exact List.mem_singleton.mp isFirst ▸ List.mem_cons_self
    · exact List.mem_cons_of_mem _ after
  | case5 run word c next rest _ _ ih =>
    intro w isWord d isChar
    rcases ih w isWord d isChar with before | after
    · rcases List.mem_cons.mp before with rfl | inWord
      · exact .inr List.mem_cons_self
      · exact .inl inWord
    · exact .inr (List.mem_cons_of_mem _ after)

/-- The words of a name hold its characters. -/
theorem mem_of_mem_wordsOf {name : List Char} : ∀ w ∈ wordsOf name, ∀ c ∈ w, c ∈ name := by
  intro w isWord c isChar
  obtain ⟨piece, isPiece, inPiece⟩ := List.mem_flatMap.mp isWord
  rcases mem_of_mem_wordsFrom w inPiece c isChar with before | inPiece
  · exact absurd before List.not_mem_nil
  · exact mem_of_mem_piecesOf piece (List.mem_of_mem_filter isPiece) c inPiece

/-! ### Case mappings -/

theorem ofNat_notMem_marks {code : Nat} (notCode : code ∉ markCodes) :
    Char.ofNat code ∉ marks := by
  intro isMark
  have isCode : (Char.ofNat code).toNat ∈ markCodes := toNat_mem_markCodes isMark
  by_cases valid : code.isValidChar
  · have same : (Char.ofNat code).toNat = code := by
      rw [Char.ofNat, dif_pos valid]
      rfl
    exact notCode (same ▸ isCode)
  · have zero : (Char.ofNat code).toNat = 0 := by simp [Char.ofNat, valid, Char.toNat]
    rw [zero] at isCode
    exact absurd isCode (by decide)

/-- The images of a range of a mapping stay on one side of each code. -/
def ImagesApart (mapping : List (Nat × Nat × Nat × Nat)) : Prop :=
  ∀ entry ∈ mapping, ∀ code ∈ markCodes,
    code < entry.2.2.2 ∨ entry.2.2.2 + (entry.2.1 - entry.1) < code

/-- A mapping keeps characters from structuring text if none of its images does. -/
theorem notMem_marks_of_mapCase {expansion : List (Nat × List Nat)}
    {mapping : List (Nat × Nat × Nat × Nat)}
    (expanded : ∀ entry ∈ expansion, ∀ code ∈ entry.2, code ∉ markCodes)
    (mapped : ImagesApart mapping) {c : Char} (notMark : c ∉ marks) :
    ∀ image ∈ mapCase expansion mapping c, image ∉ marks := by
  intro image isImage
  unfold mapCase at isImage
  split at isImage
  case h_1 codes found =>
    obtain ⟨code, isCode, rfl⟩ := List.mem_map.mp isImage
    obtain ⟨before, after, rfl, -⟩ := List.lookup_eq_some_iff.mp found
    exact ofNat_notMem_marks (expanded (c.toNat, codes) (by simp) code isCode)
  case h_2 =>
    split at isImage
    case h_1 first last step start found =>
      rw [List.mem_singleton.mp isImage]
      have inRange := List.find?_some found
      simp only [inSteps, Bool.and_eq_true, decide_eq_true_eq] at inRange
      refine ofNat_notMem_marks fun isCode => ?_
      rcases mapped _ (List.mem_of_find?_eq_some found) _ isCode with above | below
      · exact absurd above (by simp)
      · have : c.toNat - first ≤ last - first := Nat.sub_le_sub_right inRange.1.2 first
        simp only at below
        omega
    case h_2 => rwa [List.mem_singleton.mp isImage]

theorem notMem_marks_of_toLower {c : Char} (notMark : c ∉ marks) :
    ∀ image ∈ toLower c, image ∉ marks := by
  have expanded : ∀ entry ∈ lowerExpansion, ∀ code ∈ entry.2, code ∉ markCodes := by decide +kernel
  have mapped : ImagesApart lowerMapping := by
    unfold ImagesApart
    decide +kernel
  exact notMem_marks_of_mapCase expanded mapped notMark

theorem notMem_marks_of_toUpper {c : Char} (notMark : c ∉ marks) :
    ∀ image ∈ toUpper c, image ∉ marks := by
  have expanded : ∀ entry ∈ upperExpansion, ∀ code ∈ entry.2, code ∉ markCodes := by decide +kernel
  have mapped : ImagesApart upperMapping := by
    unfold ImagesApart
    decide +kernel
  exact notMem_marks_of_mapCase expanded mapped notMark

/-! ### Names -/

theorem notMem_marks_of_lowerWord {word : List Char} (notMark : ∀ c ∈ word, c ∉ marks) :
    ∀ c ∈ lowerWord word, c ∉ marks := by
  fun_induction lowerWord word with
  | case1 => exact List.forall_mem_nil _
  | case2 => exact List.forall_mem_singleton.mpr (by decide)
  | case3 c notSigma => exact notMem_marks_of_toLower (notMark c List.mem_cons_self)
  | case4 c rest _ ih =>
    obtain ⟨first, others⟩ := List.forall_mem_cons.mp notMark
    exact List.forall_mem_append.mpr ⟨notMem_marks_of_toLower first, ih others⟩

theorem notMem_marks_of_capitalWord {word : List Char} (notMark : ∀ c ∈ word, c ∉ marks) :
    ∀ c ∈ capitalWord word, c ∉ marks := by
  cases word with
  | nil => exact List.forall_mem_nil _
  | cons c rest =>
    obtain ⟨first, others⟩ := List.forall_mem_cons.mp notMark
    exact List.forall_mem_append.mpr
      ⟨notMem_marks_of_toUpper first, notMem_marks_of_lowerWord others⟩

/-- A clean name is clean in lower camel case. -/
theorem clean_lowerCamel {name : String} (clean : Clean name) : Clean (lowerCamel name) := by
  have ofWords : ∀ w ∈ wordsOf name.toList, ∀ c ∈ w, c ∉ marks :=
    fun w isWord c isChar => clean c (mem_of_mem_wordsOf w isWord c isChar)
  unfold lowerCamel
  cases words : wordsOf name.toList with
  | nil => exact clean_empty
  | cons first others =>
    rw [words] at ofWords
    obtain ⟨ofFirst, ofOthers⟩ := List.forall_mem_cons.mp ofWords
    refine clean_ofList.mpr (List.forall_mem_append.mpr
      ⟨notMem_marks_of_lowerWord ofFirst, fun c isChar => ?_⟩)
    obtain ⟨w, isWord, inWord⟩ := List.mem_flatMap.mp isChar
    exact notMem_marks_of_capitalWord (ofOthers w isWord) c inWord

end InteropGlue.Text
