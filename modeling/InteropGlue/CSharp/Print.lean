import InteropGlue.CSharp.Code
import InteropGlue.CSharp.Syntax
/-!
# Printing

The text of expressions and statements, and the layout of members, types and files.

## Main Definitions

* `Expr.text`, `Step.text` — text within one line.
* `Block.code`, `Member.code`, `TypeDecl.code` — layout of what takes several lines.
* `SourceFile.text` — the text of a file.
-/

namespace InteropGlue.CSharp

/-! ### Expressions -/

/-- The keyword before an argument or parameter, with the space after it. -/
def Passing.keyword : Passing → String
  | .byValue => ""
  | .out => "out "
  | .ref => "ref "

/-- The operator of a comparison. -/
def Comparison.operator : Comparison → String
  | .equal => "=="
  | .notEqual => "!="
  | .less => "<"

/-- Texts with a comma between each two of them. -/
def commaSeparated (texts : List String) : String := ", ".intercalate texts

/-- The allocation of an array: the size stands in the first pair of brackets, before those of the
element type. -/
def allocation (elementType size : String) : String :=
  let stem := elementType.toList.takeWhile (· != '[')
  let levels := elementType.toList.dropWhile (· != '[')
  "new " ++ String.ofList stem ++ "[" ++ size ++ "]" ++ String.ofList levels

mutual

/-- The text of an expression. -/
def Expr.text : Expr → String
  | .name name => name
  | .member owner name => owner.text ++ "." ++ name
  | .element array index => array.text ++ "[" ++ index.text ++ "]"
  | .null => "null"
  | .number value => toString value
  | .compare comparison left right => left.text ++ " " ++ comparison.operator ++ " " ++ right.text
  | .choose condition yes no => condition.text ++ " ? " ++ yes.text ++ " : " ++ no.text
  | .cast type value => "(" ++ type ++ ")" ++ value.text
  | .call callee args => callee.text ++ "(" ++ commaSeparated (Arg.texts args) ++ ")"
  | .create type args => "new " ++ type ++ "(" ++ commaSeparated (Arg.texts args) ++ ")"
  | .createArray elementType size => allocation elementType size.text
termination_by structural e => e

/-- The text of an argument. -/
def Arg.text : Arg → String
  | .pass passing value => passing.keyword ++ value.text
termination_by structural a => a

/-- The texts of arguments. -/
def Arg.texts : List Arg → List String
  | [] => []
  | arg :: rest => arg.text :: Arg.texts rest
termination_by structural args => args

end

/-! ### Statements -/

/-- The text of a statement without a body. -/
def Step.text : Step → String
  | .declare type name => type ++ " " ++ name ++ ";"
  | .bind name value => "var " ++ name ++ " = " ++ value.text ++ ";"
  | .assign target value => target.text ++ " = " ++ value.text ++ ";"
  | .attach target value => target.text ++ " += " ++ value.text ++ ";"
  | .detach target value => target.text ++ " -= " ++ value.text ++ ";"
  | .increment target => target.text ++ "++;"
  | .decrement target => target.text ++ "--;"
  | .evaluate value => value.text ++ ";"
  | .leave none => "return;"
  | .leave (some value) => "return " ++ value.text ++ ";"

/-- The header of a counted loop. -/
def countedHeader (index bound : String) : String :=
  "for (var " ++ index ++ " = 0; " ++ index ++ " < " ++ bound ++ "; " ++ index ++ "++)"

/-- The layout of statements. -/
def Block.code : Block → Code
  | .done => .done
  | .step s rest => .line s.text rest.code
  | .guarded condition body rest => .block ("if (" ++ condition.text ++ ")") body.code rest.code
  | .counted index bound body rest => .block (countedHeader index bound.text) body.code rest.code

/-! ### Members -/

/-- The text of a parameter. -/
def Parameter.text (p : Parameter) : String :=
  (match p.marshal with
    | some text => text ++ " "
    | none => "") ++
    (if p.isBuffer then "[Out] " else "") ++ p.passing.keyword ++ p.type ++ " " ++ p.name

/-- The text of parameters. -/
def paramList (params : List Parameter) : String := commaSeparated (params.map Parameter.text)

/-- The text of a signature. -/
def Signature.text (signature : Signature) : String :=
  signature.returns ++ " " ++ signature.name ++ "(" ++ paramList signature.params ++ ")"

/-- The lines of a delegate type. -/
def Delegate.lines (delegate : Delegate) : List String :=
  delegate.attributes ++ ["public delegate " ++ delegate.signature.text ++ ";"]

/-- The layout of a member. -/
def Member.code : Member → Code
  | .field attributes modifiers type name initial =>
    .ofLines (attributes ++
      [modifiers ++ " " ++ type ++ " " ++ name ++
        (match initial with
          | some value => " = " ++ value.text
          | none => "") ++ ";"])
  | .enumValue name value => .ofLine (name ++ " = " ++ value ++ ",")
  | .abstractMethod signature => .ofLine ("public abstract " ++ signature.text ++ ";")
  | .method modifiers signature body => .block (modifiers ++ " " ++ signature.text) body.code .done
  | .constructor type params body =>
    .block ("public " ++ type ++ "(" ++ paramList params ++ ")") body.code .done
  | .property type name value =>
    .block ("public " ++ type ++ " " ++ name)
      (.ofLine ("get \x7b return " ++ value.text ++ "; \x7d")) .done
  | .slot type name => .ofLine ("public " ++ type ++ " " ++ name ++ " \x7b get; set; \x7d")
  | .abstractEvent type name => .ofLine ("public abstract event " ++ type ++ " " ++ name ++ ";")
  | .event modifiers type name add remove =>
    .block (modifiers ++ " event " ++ type ++ " " ++ name)
      (.block "add" add.code (.block "remove" remove.code .done)) .done
  | .delegate d => .ofLines d.lines

/-! ### Arrangements -/

/-- The layout of items. -/
def Item.codes {α : Type} (layout : α → Code) (items : List (Item α)) : Code :=
  .concat (items.map fun item =>
    match item with
    | .entry value => layout value
    | .blank => .blank .done)

/-- The layout of the parts of a listing. -/
def Section.codes {α : Type} (layout : α → Code) (parts : List (Section α)) : Code :=
  .concat (parts.map fun part =>
    match part with
    | .item single => Item.codes layout [single]
    | .region title items => .region title (Item.codes layout items) .done)

/-! ### Types and files -/

/-- The words before the name of a type. -/
def TypeSort.words : TypeSort → String
  | .abstractClass => "public abstract class"
  | .partialClass => "internal partial class"
  | .plainClass => "public class"
  | .struct => "public struct"
  | .enum => "public enum"

/-- The line that opens a type, without its brace. -/
def TypeDecl.header (decl : TypeDecl) : String :=
  decl.sort.words ++ " " ++ decl.name ++
    match decl.base with
    | some base => " : " ++ base
    | none => ""

/-- The layout of a type. -/
def TypeDecl.code (decl : TypeDecl) : Code :=
  .ofLines decl.attributes ++ .block decl.header (Section.codes Member.code decl.body) .done

/-- The layout of a declaration. -/
def Declaration.code : Declaration → Code
  | .type decl => decl.code
  | .delegate d => .ofLines d.lines

/-- The layout of a chapter. -/
def Chapter.code (chapter : Chapter) : Code :=
  .region chapter.title (Section.codes Declaration.code chapter.body) .done

/-- The line that gives a name to a type. -/
def aliasLine (entry : String × String) : String :=
  "using " ++ entry.1 ++ " = " ++ entry.2 ++ ";"

/-- The lines above the namespace. -/
def SourceFile.headerCode (file : SourceFile) : Code :=
  .ofLines file.comment ++ .blank
    (.ofLines (file.usings.map fun name => "using " ++ name ++ ";") ++ .blank
      (.ofLines (file.aliases.map aliasLine) ++ .blank .done))

/-- The layout of a file. -/
def SourceFile.code (file : SourceFile) : Code :=
  file.headerCode ++
    .block ("namespace " ++ file.namespaceName)
      (Item.codes Chapter.code (Item.spaced file.chapters)) .done

/-- The text of a file. -/
def SourceFile.text (file : SourceFile) : String := file.code.text

end InteropGlue.CSharp
