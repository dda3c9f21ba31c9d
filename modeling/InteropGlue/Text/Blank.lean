/-!
# White space and lines

White space is the Unicode property `White_Space`; it decides what trimming removes. A text falls
into lines at its line feeds.

## Main Definitions

* `isBlank` — membership of a character in the class.
* `trimStart`, `trimEnd`, `trim` — removal of blank characters at the ends of a text.
* `lines` — the lines of a text, without their line ends.

## Design Notes

The functions work on character lists, so that a text is one list and each rule one recursion.
-/

namespace InteropGlue.Text

/-- The ranges of the property `White_Space`, both ends included. -/
def blankRanges : List (Nat × Nat) :=
  [(0x09, 0x0d), (0x20, 0x20), (0x85, 0x85), (0xa0, 0xa0), (0x1680, 0x1680), (0x2000, 0x200a),
    (0x2028, 0x2029), (0x202f, 0x202f), (0x205f, 0x205f), (0x3000, 0x3000)]

/-- A character with the property `White_Space`. -/
def isBlank (c : Char) : Bool :=
  blankRanges.any fun range => range.1 ≤ c.toNat && c.toNat ≤ range.2

/-- The text without its leading blank characters. -/
def trimStart (text : List Char) : List Char := text.dropWhile isBlank

/-- The text without its trailing blank characters. -/
def trimEnd (text : List Char) : List Char := (text.reverse.dropWhile isBlank).reverse

/-- The text without blank characters at either end. -/
def trim (text : List Char) : List Char := trimEnd (trimStart text)

/-- The pieces between line feeds; a text with `n` feeds has `n + 1` of them. -/
def splitAtFeeds : List Char → List (List Char)
  | [] => [[]]
  | c :: rest =>
    if c = '\n' then [] :: splitAtFeeds rest
    else
      match splitAtFeeds rest with
      | [] => [[c]]
      | piece :: pieces => (c :: piece) :: pieces

/-- A piece without one trailing carriage return, which belongs to the line end. -/
def dropReturn (piece : List Char) : List Char :=
  match piece.reverse with
  | '\r' :: rest => rest.reverse
  | _ => piece

/-- The lines of a text that does not end in a line end. The empty text has none. -/
def lines (text : List Char) : List (List Char) :=
  if text.isEmpty then [] else (splitAtFeeds text).map dropReturn

end InteropGlue.Text
