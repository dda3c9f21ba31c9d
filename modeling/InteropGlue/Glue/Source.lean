import InteropGlue.CSharp.Print
import InteropGlue.Glue.Classes
import InteropGlue.Schema.Basic
import InteropGlue.Text.Blank
/-!
# Generated source

The file for a library: a header, and a namespace with the application surface and one native
surface for each target.

## Main Definitions

* `Library.applicationChapter`, `Library.nativeChapter` — the surfaces.
* `distinctTargets` — the targets of a list, each at its first occurrence.
* `Library.sourceFile?` — the file, unless no target is named.
-/

namespace InteropGlue

open CSharp

/-! ### Header -/

/-- The comment of a file without a license text. -/
def generatedNotice : List String :=
  ["// <auto-generated>",
    "// Generated by abgen. Do not edit; regenerate from the schema instead.",
    "// </auto-generated>"]

/-- A line of a license text as a comment. -/
def commentLine (line : List Char) : String :=
  if line.isEmpty then "//" else "// " ++ String.ofList line

/-- The comment at the top of a file. -/
def headerComment : Option String → List String
  | some license => (Text.lines (Text.trimEnd license.toList)).map commentLine
  | none => generatedNotice

/-- The aliases that every file has: the native boolean and the native handles. -/
def nativeAliases : List (String × String) :=
  [(nativeBool, "System.Int32"), (Target.modern.handleName, "System.Int64"),
    (Target.legacy.handleName, "System.Int32")]

/-- The targets of a list, each at its first occurrence. -/
def distinctTargets (targets : List Target) : List Target :=
  targets.foldl (fun seen target => if target ∈ seen then seen else seen ++ [target]) []

namespace Library

variable (lib : Library) (names : ClassNames) (target : Target)

/-! ### Surfaces -/

/-- The surface of the application. -/
def applicationChapter : Chapter :=
  let mode := Mode.application target
  { title := "Application level types"
    body :=
      [.entry (.type (lib.functionsClass names mode)),
        .blank,
        .entry (.type (lib.eventsClass names)),
        .blank] ++
        (if lib.events.isEmpty then []
        else
          [.regionOf "Event handler delegates"
              (lib.events.map fun event => .delegate (lib.handlerDelegate mode event)),
            .blank]) ++
        (Item.trailed ((lib.enums.map (lib.enumDecl mode) ++ lib.recordDecls mode).map .type)).map
          .item }

/-- The native surface of a target. -/
def nativeChapter : Chapter :=
  { title := "Native level types (" ++ target.label ++ ")"
    body :=
      [.entry (.type (lib.entryPointsClass names target)),
        .blank,
        .entry (.type (lib.nativeEventsClass names target)),
        .blank] ++
        (Item.trailed ((lib.recordDecls (.native target)).map .type)).map .item ++
        [.entry (.type (lib.nativeFunctionsClass names target)),
          .blank,
          .entry (.type (lib.forwarderClass names target))] }

/-! ### Files -/

/-- The file for a library. Without a target there is nothing to generate. -/
def sourceFile? (output : OutputDecl) (aliases : List AliasDecl) : Option SourceFile :=
  let names : ClassNames := ⟨output.library⟩
  match distinctTargets output.targets with
  | [] => none
  | first :: others =>
    some
      { comment := headerComment output.license
        usings := output.usings
        aliases := nativeAliases ++ aliases.map fun decl => (decl.name, decl.target)
        namespaceName := output.namespaceName
        chapters :=
          lib.applicationChapter names first ::
            (first :: others).map (lib.nativeChapter names) }

end Library

end InteropGlue
