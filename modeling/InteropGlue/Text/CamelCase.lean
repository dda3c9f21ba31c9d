import InteropGlue.Text.Alphanumeric
import InteropGlue.Text.LetterCase
/-!
# Lower camel case

The name of a private field is the name of its event in lower camel case: the words of the name,
the first in lower case and each other one with an upper-case initial, joined without a separator.

* Characters that are neither letters nor numbers separate pieces and belong to no word.
* Inside a piece a word ends after a lower-case run that an upper-case letter follows
  (`focus|Gained`), and before the last letter of an upper-case run that a lower-case letter follows
  (`HWND|Changed`).
* A character without case continues the run it stands in (`x1|Y` splits, `X1Y` does not).
* A sigma that ends a lower-cased text takes its final form.

## Main Definitions

* `wordsOf` — the words of a name.
* `lowerCamel` — the name in lower camel case.
-/

namespace InteropGlue.Text

/-- The case of the letters at the end of the word read so far. -/
inductive LetterRun
  | none
  | lower
  | upper
  deriving DecidableEq, Repr

/-- The run after a further character that does not start a new word. -/
def LetterRun.extend (run : LetterRun) (c : Char) : LetterRun :=
  if isLower c then .lower else if isUpper c then .upper else run

/-- The words of a piece that holds letters and numbers only. `word` is the current word, last
character first, and `run` its letter run. -/
def wordsFrom (run : LetterRun) (word : List Char) : List Char → List (List Char)
  | [] => [word.reverse]
  | c :: rest =>
    match rest with
    | [] => [(c :: word).reverse]
    | next :: _ =>
      if run.extend c = .lower ∧ isUpper next then
        (c :: word).reverse :: wordsFrom .none [] rest
      else if run = .upper ∧ isUpper c ∧ isLower next then
        word.reverse :: wordsFrom .none [c] rest
      else
        wordsFrom (run.extend c) (c :: word) rest

/-- The pieces of a name between characters that are neither letters nor numbers. -/
def piecesOf : List Char → List (List Char)
  | [] => [[]]
  | c :: rest =>
    if isAlphanumeric c then
      match piecesOf rest with
      | [] => [[c]]
      | piece :: pieces => (c :: piece) :: pieces
    else [] :: piecesOf rest

/-- The words of a name, in order. An empty piece gives none. -/
def wordsOf (name : List Char) : List (List Char) :=
  ((piecesOf name).filter (!·.isEmpty)).flatMap (wordsFrom .none [])

/-- A text in lower case; a sigma at its end is a final sigma. -/
def lowerWord : List Char → List Char
  | [] => []
  | [c] => if c = 'Σ' then ['ς'] else toLower c
  | c :: rest => toLower c ++ lowerWord rest

/-- A text with its first character in upper case and the rest in lower case. -/
def capitalWord : List Char → List Char
  | [] => []
  | c :: rest => toUpper c ++ lowerWord rest

/-- A name in lower camel case. -/
def lowerCamel (name : String) : String :=
  match wordsOf name.toList with
  | [] => ""
  | first :: others => String.ofList (lowerWord first ++ others.flatMap capitalWord)

end InteropGlue.Text
