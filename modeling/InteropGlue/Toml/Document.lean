import InteropGlue.Toml.Moment
import InteropGlue.Toml.Table
import InteropGlue.Toml.Text
/-!
# Documents

A document is a sequence of lines: headers of tables, headers of elements of lists of tables, and
assignments of values to keys. The assignments before the first header belong to the document
itself, the others to the header above them.

## Main Definitions

* `readValue` — a value.
* `Line`, `readLines` — the lines of a document.
* `read?` — the data of a document, or nothing if the text is no document.

## Design Notes

Reading functions give what they read and the characters after it. Those that recurse through nested
values take a bound on the number of steps; the number of characters is one, as every step takes a
character. Arrays and inline tables nest at most eighty levels deep.
-/

namespace InteropGlue.Toml

/-! ### Blanks and comments -/

/-- What follows blanks, line ends and comments; nothing if a comment or line end is malformed. -/
def skipLines (inComment : Bool) : List Char → Option (List Char)
  | [] => some []
  | c :: rest =>
    if c = '\n' then skipLines false rest
    else if c = '\r' then (if rest.head? = some '\n' then skipLines false rest else none)
    else if inComment then (if isTextCharacter c then skipLines true rest else none)
    else if isLineBlank c then skipLines false rest
    else if c = '#' then skipLines true rest
    else some (c :: rest)

/-- What follows blanks within a line. -/
def skipBlanks (text : List Char) : List Char := text.dropWhile isLineBlank

/-- What follows the rest of a line that holds nothing more than blanks and a comment. -/
def endLine? (text : List Char) : Option (List Char) :=
  match skipBlanks text with
  | [] => some []
  | '#' :: rest => skipLines true rest
  | '\n' :: rest => some rest
  | '\r' :: '\n' :: rest => some rest
  | _ => none

/-! ### Keys -/

/-- A character of a key without quotes. -/
def isKeyCharacter (c : Char) : Bool := c.isAlphanum || c == '_' || c == '-'

/-- A key without dots. -/
def readKey? (text : List Char) : Option (String × List Char) :=
  match text.takeWhile isKeyCharacter with
  | [] => readLineText? text
  | key => some (String.ofList key, text.dropWhile isKeyCharacter)

/-- A dotted key, as the list of its parts, and what follows the blanks after it. -/
def readPath : Nat → List Char → Option (List String × List Char)
  | 0, _ => none
  | bound + 1, text => do
    let (key, rest) ← readKey? text
    match skipBlanks rest with
    | '.' :: rest =>
      let (path, rest) ← readPath bound (skipBlanks rest)
      return (key :: path, rest)
    | rest => return ([key], rest)

/-! ### Values -/

/-- A character of a value without quotes or brackets. -/
def isWordCharacter (c : Char) : Bool :=
  c.isAlphanum || c == '+' || c == '-' || c == '_' || c == '.' || c == ':'

/-- A word, and what follows it. A date takes a time after a single space into its word. -/
def readWord (text : List Char) : List Char × List Char :=
  let word := text.takeWhile isWordCharacter
  match text.dropWhile isWordCharacter with
  | ' ' :: c :: rest =>
    if c.isDigit ∧ afterDate? word = some [] then
      (word ++ ' ' :: (c :: rest).takeWhile isWordCharacter, (c :: rest).dropWhile isWordCharacter)
    else (word, ' ' :: c :: rest)
  | rest => (word, rest)

/-- The value that a word stands for. -/
def wordValue? (word : List Char) : Option Datum :=
  if word = "true".toList then some (.boolean true)
  else if word = "false".toList then some (.boolean false)
  else
    match integer? word with
    | some value => some (.integer value)
    | none =>
      match float? word with
      | some value => some (.float value)
      | none => if isMoment word then some (.moment (String.ofList word)) else none

/-- The greatest number of arrays and inline tables around a value. -/
def deepest : Nat := 80

mutual

/-- A value inside `depth` arrays and inline tables, and what follows it. -/
def readValue (bound depth : Nat) (text : List Char) : Option (Datum × List Char) :=
  match bound with
  | 0 => none
  | bound + 1 =>
    match text with
    | '"' :: _ | '\'' :: _ => (readText? text).map fun (value, rest) => (.text value, rest)
    | '[' :: rest =>
      if depth < deepest then do
        let (items, rest) ← readItems bound (depth + 1) (← skipLines false rest)
        return (.sequence items, rest)
      else none
    | '\x7b' :: rest =>
      if depth < deepest then do
        let (assignments, rest) ← readAssignments bound (depth + 1) (← skipLines false rest)
        let entries ← Node.assignAll assignments []
        return (.mapping (Node.entryData entries), rest)
      else none
    | _ =>
      let (word, rest) := readWord text
      (wordValue? word).map fun value => (value, rest)

/-- The items of an array up to its closing bracket, and what follows it. -/
def readItems (bound depth : Nat) (text : List Char) : Option (List Datum × List Char) :=
  match bound with
  | 0 => none
  | bound + 1 =>
    match text with
    | ']' :: rest => some ([], rest)
    | _ => do
      let (item, rest) ← readValue bound depth text
      match ← skipLines false rest with
      | ',' :: rest =>
        let (items, rest) ← readItems bound depth (← skipLines false rest)
        return (item :: items, rest)
      | ']' :: rest => return ([item], rest)
      | _ => none

/-- The assignments of an inline table up to its closing brace, and what follows it. -/
def readAssignments (bound depth : Nat) (text : List Char) :
    Option (List (List String × Datum) × List Char) :=
  match bound with
  | 0 => none
  | bound + 1 =>
    match text with
    | '\x7d' :: rest => some ([], rest)
    | _ => do
      let (assignment, rest) ← readAssignment bound depth text
      match ← skipLines false rest with
      | ',' :: rest =>
        let (assignments, rest) ← readAssignments bound depth (← skipLines false rest)
        return (assignment :: assignments, rest)
      | '\x7d' :: rest => return ([assignment], rest)
      | _ => none

/-- A key with its value, and what follows it. -/
def readAssignment (bound depth : Nat) (text : List Char) :
    Option ((List String × Datum) × List Char) :=
  match bound with
  | 0 => none
  | bound + 1 => do
    let (path, rest) ← readPath text.length text
    match rest with
    | '=' :: rest =>
      let (value, rest) ← readValue bound depth (skipBlanks rest)
      return ((path, value), rest)
    | _ => none

end

/-! ### Lines -/

/-- A line of a document that says something. -/
inductive Line
  | table (path : List String)
  | element (path : List String)
  | assignment (path : List String) (value : Datum)

/-- A header after its opening brackets, and what follows its closing ones. -/
def readHeader (closing text : List Char) : Option (List String × List Char) := do
  let (path, rest) ← readPath text.length (skipBlanks text)
  if closing.isPrefixOf rest then some (path, rest.drop closing.length) else none

/-- A line, and what follows it on the line. A value takes at most four steps for a character. -/
def readLine (text : List Char) : Option (Line × List Char) :=
  match text with
  | '[' :: '[' :: rest => (readHeader [']', ']'] rest).map fun (path, rest) => (.element path, rest)
  | '[' :: rest => (readHeader [']'] rest).map fun (path, rest) => (.table path, rest)
  | _ =>
    (readAssignment (4 * text.length) 0 text).map fun ((path, value), rest) =>
      (.assignment path value, rest)

/-- The lines of a document. -/
def readLines : Nat → List Char → Option (List Line)
  | 0, _ => none
  | bound + 1, text => do
    match ← skipLines false text with
    | [] => return []
    | text =>
      let (line, rest) ← readLine text
      let lines ← readLines bound (← endLine? rest)
      return line :: lines

/-! ### Documents -/

/-- The assignments at the front of a list of lines, and the lines from the first header on. -/
def leadingAssignments : List Line → List (List String × Datum) × List Line
  | .assignment path value :: rest =>
    let (assignments, lines) := leadingAssignments rest
    ((path, value) :: assignments, lines)
  | lines => ([], lines)

/-- The entries of a document after the headers of some lines and the assignments under each. -/
def defineAll : List Line → Entries → Option Entries
  | [], entries => some entries
  | .table path :: rest, entries => do
    let define := Node.defineTable (leadingAssignments rest).1
    defineAll rest (← Node.place define path entries)
  | .element path :: rest, entries => do
    let define := Node.defineElement (leadingAssignments rest).1
    defineAll rest (← Node.place define path entries)
  | .assignment _ _ :: rest, entries => defineAll rest entries

/-- A text without a byte order mark at its front. -/
def dropOrderMark (text : List Char) : List Char :=
  match text with
  | '\ufeff' :: rest => rest
  | _ => text

/-- The data of a document. -/
def read? (document : String) : Option Datum := do
  let text := dropOrderMark document.toList
  let lines ← readLines (text.length + 1) text
  let entries ← Node.assignAll (leadingAssignments lines).1 []
  return .mapping (Node.entryData (← defineAll lines entries))

end InteropGlue.Toml
