import InteropGlue.Toml.Number
/-!
# Quoted texts

A text stands between quotation marks or apostrophes, one on each side for a text within a line,
three for a text of several lines. Between quotation marks a backslash starts an escape.

* A line end right after the opening marks of a text of several lines does not belong to it; others
  do, as they are written.
* One or two marks may stand anywhere in a text of several lines, also right before the closing
  ones.
* A backslash before a line end of such a text removes the line end and all blanks after it.
* Control characters other than the tab do not occur, nor does a carriage return outside a line end.

## Main Definitions

* `TextForm` — the four forms.
* `readText?` — the text after its opening marks, and what follows it.

## Design Notes

The reader is a machine that takes one character at a time, so its recursion is on the characters.
-/

namespace InteropGlue.Toml

/-- A form of text: its mark, and whether it has escapes and several lines. -/
structure TextForm where
  mark : Char
  hasEscapes : Bool
  hasLines : Bool
  deriving DecidableEq, Repr

/-- What the reader of a text is in the middle of. -/
inductive TextState
  /-- Plain text, after a number of marks that may begin the closing ones. -/
  | plain (marks : Nat)
  | escape
  /-- A character given by its code, with a number of digits still to come. -/
  | code (digits value : Nat)
  /-- Blanks between a backslash and the line end it removes. -/
  | beforeLineEnd
  /-- Blanks and line ends that a backslash removes. -/
  | folding
  deriving DecidableEq, Repr

/-- What a character does: the reader goes on, or the text is over, which a character after it may
show. The text so far is reversed. -/
inductive TextMove
  | go (state : TextState) (text : List Char)
  | close (text : List Char) (usesCharacter : Bool)

/-- A blank within a line. -/
def isLineBlank (c : Char) : Bool := c == ' ' || c == '\t'

/-- A character that may occur in texts and comments: the tab, and what is no control character. -/
def isTextCharacter (c : Char) : Bool := c == '\t' || (' ' ≤ c && c.toNat != 0x7f)

/-- A line feed, or a carriage return before one. -/
def isLineEndPart (c : Char) (next : Option Char) : Bool :=
  c == '\n' || (c == '\r' && next == some '\n')

/-- The character that an escape of one letter stands for. -/
def escapedCharacter? : Char → Option Char
  | 'b' => some '\x08'
  | 't' => some '\t'
  | 'n' => some '\n'
  | 'f' => some '\x0c'
  | 'r' => some '\r'
  | 'e' => some '\x1b'
  | '"' => some '"'
  | '\\' => some '\\'
  | _ => none

/-- The number of digits after the letter of an escape by code. -/
def codeWidth? : Char → Option Nat
  | 'x' => some 2
  | 'u' => some 4
  | 'U' => some 8
  | _ => none

namespace TextForm

variable (form : TextForm)

/-- The move for a character of plain text, after a number of marks. -/
def plainMove (marks : Nat) (text : List Char) (c : Char) (next : Option Char) : Option TextMove :=
  if c = form.mark then
    if form.hasLines then
      if marks = 4 then some (.close (form.mark :: form.mark :: text) true)
      else some (.go (.plain (marks + 1)) text)
    else some (.close text true)
  else if 3 ≤ marks then some (.close (List.replicate (marks - 3) form.mark ++ text) false)
  else
    let text := List.replicate marks form.mark ++ text
    if c = '\\' ∧ form.hasEscapes then some (.go .escape text)
    else if isTextCharacter c ∨ (form.hasLines ∧ isLineEndPart c next) then
      some (.go (.plain 0) (c :: text))
    else none

/-- The move for a character after a backslash. -/
def escapeMove (text : List Char) (c : Char) (next : Option Char) : Option TextMove :=
  match escapedCharacter? c, codeWidth? c with
  | some character, _ => some (.go (.plain 0) (character :: text))
  | none, some width => some (.go (.code width 0) text)
  | none, none =>
    if form.hasLines then
      if isLineBlank c then some (.go .beforeLineEnd text)
      else if isLineEndPart c next then some (.go .folding text)
      else none
    else none

/-- The move for a digit of a code. -/
def codeMove (digits value : Nat) (text : List Char) (c : Char) : Option TextMove := do
  let value := 16 * value + (← digitOf? 16 c)
  if 1 < digits then some (.go (.code (digits - 1) value) text)
  else if value.isValidChar then some (.go (.plain 0) (Char.ofNat value :: text))
  else none

/-- The move for a character. -/
def move (state : TextState) (text : List Char) (c : Char) (next : Option Char) :
    Option TextMove :=
  match state with
  | .plain marks => form.plainMove marks text c next
  | .escape => form.escapeMove text c next
  | .code digits value => codeMove digits value text c
  | .beforeLineEnd =>
    if isLineBlank c then some (.go .beforeLineEnd text)
    else if isLineEndPart c next then some (.go .folding text)
    else none
  | .folding =>
    if isLineBlank c ∨ isLineEndPart c next then some (.go .folding text)
    else form.plainMove 0 text c next

/-- The text at the end of the document, if its closing marks were the last characters. -/
def atEnd? (state : TextState) (text : List Char) : Option (List Char) :=
  match state with
  | .plain marks =>
    if 3 ≤ marks then some (List.replicate (marks - 3) form.mark ++ text) else none
  | _ => none

/-- The text read from a state on, and what follows it. -/
def readFrom (state : TextState) (text : List Char) : List Char → Option (String × List Char)
  | [] => (form.atEnd? state text).map fun text => (String.ofList text.reverse, [])
  | c :: rest =>
    match form.move state text c rest.head? with
    | some (.go state text) => readFrom state text rest
    | some (.close text usesCharacter) =>
      some (String.ofList text.reverse, if usesCharacter then rest else c :: rest)
    | none => none

end TextForm

/-- What follows a line end right at the front, or all of the characters. -/
def dropLineEnd : List Char → List Char
  | '\n' :: rest => rest
  | '\r' :: '\n' :: rest => rest
  | rest => rest

/-- The text that starts with a mark, on one line, and what follows it. -/
def readLineText? : List Char → Option (String × List Char)
  | '"' :: rest => TextForm.readFrom ⟨'"', true, false⟩ (.plain 0) [] rest
  | '\'' :: rest => TextForm.readFrom ⟨'\'', false, false⟩ (.plain 0) [] rest
  | _ => none

/-- The text that starts with a mark, and what follows it. -/
def readText? : List Char → Option (String × List Char)
  | '"' :: '"' :: '"' :: rest =>
    TextForm.readFrom ⟨'"', true, true⟩ (.plain 0) [] (dropLineEnd rest)
  | '\'' :: '\'' :: '\'' :: rest =>
    TextForm.readFrom ⟨'\'', false, true⟩ (.plain 0) [] (dropLineEnd rest)
  | rest => readLineText? rest

end InteropGlue.Toml
