import InteropGlue.Generate
import InteropGlue.Proofs.CSharp.Layout
import InteropGlue.Proofs.Glue.ApplicationSurface
import Mathlib.Data.List.Nodup
import Mathlib.Data.List.Perm.Basic
/-!
# Surfaces of several targets

A file has one surface for the application and one native surface for each target. What is written
for a surface depends on no other surface, so the file is put together from texts that are fixed
before the list of targets is known. Two facts carry this.

* **The application surface has no target.** It is generated with the first target of the list, and
  would be the same with any other.
* **A surface closes what it opens.** Its lines are its own, at the indentation of the namespace.

## Main Definitions

* `assembled` — a text with native surfaces in an order.
* `Composes` — how the texts for lists of targets are put together, and what that means for a list
  that repeats, reorders or drops a target.

## Main Results

* `distinctTargets_eq` — each target counts once, at its first occurrence.
* `SourceFile.text_eq` — the text of a file from those of its chapters.
* `Library.source_composes` — the source for a list of targets from the texts of its surfaces.
-/

namespace InteropGlue

open CSharp

/-! ### Distinct targets -/

/-- A list of seen targets after one more. -/
def noted (seen : List Target) (target : Target) : List Target :=
  if target ∈ seen then seen else seen ++ [target]

theorem noted_of_mem {seen : List Target} {target : Target} (before : target ∈ seen) :
    noted seen target = seen := if_pos before

theorem noted_of_not_mem {seen : List Target} {target : Target} (new : target ∉ seen) :
    noted seen target = seen ++ [target] := if_neg new

theorem distinctTargets_eq_foldl (targets : List Target) :
    distinctTargets targets = targets.foldl noted [] := rfl

/-- What is seen stays, and what is not yet seen follows once. -/
theorem foldl_noted (targets seen : List Target) :
    targets.foldl noted seen = seen ++ (targets.removeAll seen).eraseDups := by
  induction targets generalizing seen with
  | nil => simp
  | cons target targets ih =>
    rw [List.foldl_cons, ih]
    by_cases before : target ∈ seen
    · rw [noted_of_mem before]
      simp [before, List.removeAll]
    · have first : (target :: targets).removeAll seen = target :: targets.removeAll seen := by
        simp [List.removeAll, before]
      have rest : targets.removeAll (seen ++ [target]) =
          (targets.removeAll seen).filter (fun other => !other == target) := by
        simp only [List.removeAll, List.filter_filter]
        refine List.filter_congr fun other _ => ?_
        rw [List.elem_eq_contains, List.elem_eq_contains, List.contains_append, Bool.not_or,
          Bool.and_comm, List.contains_cons, List.contains_nil, Bool.or_false]
      rw [noted_of_not_mem before, first, List.eraseDups_cons, rest, List.append_assoc,
        List.singleton_append]

/-- Each target of a list counts once, at its first occurrence. -/
theorem distinctTargets_eq (targets : List Target) :
    distinctTargets targets = targets.eraseDups := by
  rw [distinctTargets_eq_foldl, foldl_noted]
  simp

theorem nodup_noted {seen : List Target} (distinct : seen.Nodup) (target : Target) :
    (noted seen target).Nodup := by
  by_cases before : target ∈ seen
  · rwa [noted_of_mem before]
  · rw [noted_of_not_mem before]
    refine List.nodup_append.mpr ⟨distinct, List.nodup_singleton _, ?_⟩
    rintro other isSeen _ last rfl
    exact before (List.mem_singleton.mp last ▸ isSeen)

theorem nodup_eraseDups (targets : List Target) : targets.eraseDups.Nodup := by
  rw [← distinctTargets_eq, distinctTargets_eq_foldl]
  exact List.foldlRecOn targets noted .nil fun _ distinct target _ => nodup_noted distinct target

/-- A target that is dropped from a list is dropped where it occurred first. -/
theorem eraseDups_drop (targets : List Target) (dropped : Target) :
    (targets.filter (· ≠ dropped)).eraseDups = targets.eraseDups.filter (· ≠ dropped) := by
  suffices kept : ∀ seen : List Target,
      (targets.filter (· ≠ dropped)).foldl noted (seen.filter (· ≠ dropped)) =
        (targets.foldl noted seen).filter (· ≠ dropped) by
    rw [← distinctTargets_eq, ← distinctTargets_eq]
    exact kept []
  induction targets with
  | nil => exact fun _ => rfl
  | cons target targets ih =>
    intro seen
    rw [List.foldl_cons, ← ih]
    by_cases same : target = dropped
    · rw [List.filter_cons_of_neg (by simpa using same)]
      by_cases before : target ∈ seen
      · rw [noted_of_mem before]
      · rw [noted_of_not_mem before, List.filter_append, same]
        simp
    · rw [List.filter_cons_of_pos (by simpa using same), List.foldl_cons]
      by_cases before : target ∈ seen
      · rw [noted_of_mem before, noted_of_mem (by simp [before, same])]
      · rw [noted_of_not_mem before, noted_of_not_mem (by simp [before]), List.filter_append]
        simp [same]

/-! ### Texts of chapters -/

/-- The text of a chapter, at the indentation of a namespace. -/
def CSharp.Chapter.text (chapter : Chapter) : String :=
  Line.textOf (chapter.code.lines indentWidth)

/-- The text above the namespace. -/
def CSharp.SourceFile.headerText (file : SourceFile) : String :=
  Line.textOf (file.headerCode.lines 0)

/-- The line that opens the namespace. -/
def CSharp.SourceFile.openingLine (file : SourceFile) : String :=
  "namespace " ++ file.namespaceName ++ " \x7b\n"

/-- The line that closes the namespace. -/
def closingLine : String := "\x7d\n"

/-- The text of chapters with an empty line between each two of them. -/
theorem textOf_spaced (first : Chapter) (others : List Chapter) :
    Line.textOf ((Item.codes Chapter.code (Item.spaced (first :: others))).lines indentWidth) =
      first.text ++ String.join (others.map fun chapter => "\n" ++ chapter.text) := by
  induction others generalizing first with
  | nil => simp [Item.spaced, Item.codes, Chapter.text]
  | cons next others ih =>
    have spaced : (Item.codes Chapter.code (Item.spaced (first :: next :: others))).lines
        indentWidth = first.code.lines indentWidth ++ ⟨indentWidth, ""⟩ ::
          (Item.codes Chapter.code (Item.spaced (next :: others))).lines indentWidth := by
      simp [Item.spaced, Item.codes, Code.lines]
    rw [spaced, Line.textOf_append, Line.textOf_cons, ih next, List.map_cons, String.join_cons,
      String.append_assoc]
    rfl

/-- The text of a file is put together from those of its chapters. -/
theorem CSharp.SourceFile.text_eq {file : SourceFile} {first : Chapter} {others : List Chapter}
    (chapters : file.chapters = first :: others) :
    file.text = file.headerText ++ file.openingLine ++ first.text ++
      String.join (others.map fun chapter => "\n" ++ chapter.text) ++ closingLine := by
  have opens : Line.written ⟨0, "namespace " ++ file.namespaceName ++ " \x7b"⟩ =
      file.openingLine := by
    rw [Line.written, if_neg (by simp), openingLine]
    simp [String.append_assoc]
  have closes : Line.written ⟨0, "\x7d"⟩ = closingLine := rfl
  rw [SourceFile.text, Code.text_eq, SourceFile.code, Code.lines_append, Code.lines, chapters]
  simp only [Line.textOf_append, Line.textOf_cons, opens, closes, Nat.zero_add, textOf_spaced,
    Code.lines, Line.textOf_nil]
  rw [headerText, String.append_empty]
  simp only [String.append_assoc]

/-! ### Texts for lists of targets -/

/-- A text with native surfaces in an order: each follows an empty line. -/
def assembled (opening : String) (surface : Target → String) (targets : List Target) : String :=
  opening ++ String.join (targets.map fun target => "\n" ++ surface target) ++ closingLine

/-- The text for a list of targets, or a failure, is put together from texts that are fixed before
the list is known. -/
structure Composes (generate : List Target → Except GenerationFault String) (opening : String)
    (surface : Target → String) : Prop where
  /-- The surfaces follow in the order in which their targets occur first. -/
  text : ∀ targets, targets ≠ [] →
    generate targets = .ok (assembled opening surface targets.eraseDups)
  /-- Only the empty list fails. -/
  fails_iff : ∀ targets, (∃ fault, generate targets = .error fault) ↔ targets = []
  /-- A target that occurs again changes nothing. -/
  repeated : ∀ before after target, target ∈ before →
    generate (before ++ target :: after) = generate (before ++ after)
  /-- The order of a list is only seen in the order of the surfaces. -/
  reordered : ∀ targets others : List Target, targets.Perm others → targets ≠ [] →
    ∃ reordered, targets.eraseDups.Perm reordered ∧
      generate others = .ok (assembled opening surface reordered)
  /-- Without a target only its own surface is missing, unless no target is left. -/
  dropped : ∀ (targets : List Target) (target), target ∈ targets →
    targets.filter (· ≠ target) ≠ [] → ∃ before after,
      targets.eraseDups = before ++ target :: after ∧ target ∉ before ++ after ∧
      generate (targets.filter (· ≠ target)) = .ok (assembled opening surface (before ++ after))

theorem Composes.of_text {generate : List Target → Except GenerationFault String}
    {opening : String} {surface : Target → String} (fails : ∃ fault, generate [] = .error fault)
    (text : ∀ targets, targets ≠ [] →
      generate targets = .ok (assembled opening surface targets.eraseDups)) :
    Composes generate opening surface where
  text := text
  fails_iff targets := by
    constructor
    · rintro ⟨fault, isError⟩
      by_contra nonempty
      rw [text targets nonempty] at isError
      cases isError
    · rintro rfl
      exact fails
  repeated before after target isBefore := by
    have nonempty : before ≠ [] := List.ne_nil_of_mem isBefore
    have shown : (before ++ target :: after).eraseDups = (before ++ after).eraseDups := by
      simp [List.eraseDups_append, List.removeAll, isBefore]
    rw [text _ (by simp), text _ (by simp [nonempty]), shown]
  reordered targets others perm nonempty := by
    have otherNonempty : others ≠ [] := by
      rintro rfl
      exact nonempty perm.eq_nil
    refine ⟨_, ?_, text others otherNonempty⟩
    rw [List.perm_ext_iff_of_nodup (nodup_eraseDups _) (nodup_eraseDups _)]
    intro target
    rw [List.mem_eraseDups, List.mem_eraseDups, perm.mem_iff]
  dropped targets target isTarget rest := by
    obtain ⟨before, after, split⟩ := List.append_of_mem (List.mem_eraseDups.mpr isTarget)
    have distinct := nodup_eraseDups targets
    rw [split, List.nodup_middle, List.nodup_cons] at distinct
    have apart := distinct.1
    rw [List.mem_append, not_or] at apart
    have left : (targets.filter (· ≠ target)).eraseDups = before ++ after := by
      have others : ∀ part : List Target, target ∉ part → part.filter (· ≠ target) = part :=
        fun part apart => List.filter_eq_self.mpr fun other member => by
          simpa using fun same : other = target => apart (same ▸ member)
      rw [eraseDups_drop, split, List.filter_append, List.filter_cons_of_neg (by simp),
        others before apart.1, others after apart.2]
    refine ⟨before, after, split, distinct.1, ?_⟩
    rw [text _ rest, left]

/-! ### Generated source -/

/-- A file without surfaces. -/
def emptyFile (output : OutputDecl) (aliases : List AliasDecl) : SourceFile :=
  { comment := headerComment output.license
    usings := output.usings
    aliases := nativeAliases ++ aliases.map fun decl => (decl.name, decl.target)
    namespaceName := output.namespaceName
    chapters := [] }

namespace Library

variable (lib : Library) (output : OutputDecl) (aliases : List AliasDecl)

/-- The header, the opened namespace and the surface of the application, generated for a target. -/
def openingText (target : Target) : String :=
  (emptyFile output aliases).headerText ++ (emptyFile output aliases).openingLine ++
    (lib.applicationChapter ⟨output.library⟩ target).text

theorem openingText_target (target other : Target) :
    lib.openingText output aliases target = lib.openingText output aliases other := by
  rw [openingText, openingText, applicationChapter_target lib target other]

/-- A file has the header of the output, the surface of the application, and the native surfaces of
its targets. -/
theorem sourceFile?_of_targets {targets : List Target} (nonempty : targets ≠ []) :
    ∃ target ∈ targets, lib.sourceFile? { output with targets } aliases =
      some { emptyFile output aliases with
        chapters := lib.applicationChapter ⟨output.library⟩ target ::
          targets.eraseDups.map (lib.nativeChapter ⟨output.library⟩) } := by
  rw [sourceFile?, distinctTargets_eq]
  cases distinct : targets.eraseDups with
  | nil =>
    obtain ⟨target, isTarget⟩ := List.exists_mem_of_ne_nil targets nonempty
    rw [← List.mem_eraseDups, distinct] at isTarget
    cases isTarget
  | cons first others =>
    have isTarget : first ∈ targets := by
      rw [← List.mem_eraseDups, distinct]
      exact List.mem_cons_self
    exact ⟨first, isTarget, rfl⟩

/-- The source for a list of targets is put together from the text up to the native surfaces, the
text of the native surface of each target, and the line that closes the namespace. None of these
texts depends on the list. -/
theorem source_composes :
    ∃ (opening : String) (surface : Target → String),
      (∀ target, opening = lib.openingText output aliases target) ∧
        (∀ target, surface target = (lib.nativeChapter ⟨output.library⟩ target).text) ∧
          Composes (fun targets => lib.source { output with targets } aliases) opening surface := by
  refine ⟨lib.openingText output aliases .modern, fun target =>
    (lib.nativeChapter ⟨output.library⟩ target).text, openingText_target lib output aliases _,
    fun _ => rfl, Composes.of_text ⟨.noTarget, rfl⟩ fun targets nonempty => ?_⟩
  obtain ⟨target, -, file⟩ := lib.sourceFile?_of_targets output aliases nonempty
  rw [source, file, openingText_target lib output aliases .modern target]
  refine congrArg Except.ok ((SourceFile.text_eq rfl).trans ?_)
  rw [assembled, openingText, List.map_map]
  rfl

end Library

end InteropGlue
