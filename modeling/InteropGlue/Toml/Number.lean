import InteropGlue.Schema.Datum
/-!
# Numbers

A number of the document format is an integer in decimal, hexadecimal, octal or binary digits, or a
decimal with a fraction or an exponent. Single underscores may stand between digits. A decimal
integer has no leading zero, and only decimals have a sign.

## Main Definitions

* `digitsOf?` — the value of a run of digits with underscores.
* `integer?` — the integer that a word stands for.
* `float?` — the floating point number that a word stands for.

## Design Notes

Words are character lists without blanks. A word that is no number gives `none`, as does an integer
beyond 128 bits and a decimal too large for a floating point number.
-/

namespace InteropGlue.Toml

/-- The value of a digit in bases up to sixteen. -/
def digitValue? (c : Char) : Option Nat :=
  if '0' ≤ c ∧ c ≤ '9' then some (c.toNat - '0'.toNat)
  else if 'a' ≤ c ∧ c ≤ 'f' then some (c.toNat - 'a'.toNat + 10)
  else if 'A' ≤ c ∧ c ≤ 'F' then some (c.toNat - 'A'.toNat + 10)
  else none

/-- The value of a digit of a base. -/
def digitOf? (base : Nat) (c : Char) : Option Nat := (digitValue? c).filter (· < base)

/-- The digits of a word, in which each underscore stands between two digits. -/
def digitValues? (base : Nat) : List Char → Option (List Nat)
  | [] => none
  | [c] => (digitOf? base c).map ([·])
  | c :: '_' :: rest => do
    let digit ← digitOf? base c
    let others ← digitValues? base rest
    return digit :: others
  | c :: rest => do
    let digit ← digitOf? base c
    let others ← digitValues? base rest
    return digit :: others

/-- The number that digits of a base stand for, the most significant first. -/
def ofDigits (base : Nat) (digits : List Nat) : Nat :=
  digits.foldl (fun value digit => base * value + digit) 0

/-- The value of a run of digits with underscores. -/
def digitsOf? (base : Nat) (word : List Char) : Option Nat :=
  (digitValues? base word).map (ofDigits base)

/-- A word without its sign, and whether the sign was a minus. -/
def signed (word : List Char) : Bool × List Char :=
  match word with
  | '-' :: rest => (true, rest)
  | '+' :: rest => (false, rest)
  | _ => (false, word)

/-- A run of decimal digits without a leading zero, or a single zero. -/
def wholeDigits? (word : List Char) : Option Nat :=
  match word with
  | '0' :: _ :: _ => none
  | _ => digitsOf? 10 word

/-- An integer that 128 bits can hold, with or without a sign. -/
def fitsWide (value : Int) : Bool := -Nat.pow 2 127 ≤ value && value < Nat.pow 2 128

/-- The integer that a word stands for. -/
def integer? (word : List Char) : Option Int :=
  let value : Option Int :=
    match word with
    | '0' :: 'x' :: digits => (digitsOf? 16 digits).map Int.ofNat
    | '0' :: 'o' :: digits => (digitsOf? 8 digits).map Int.ofNat
    | '0' :: 'b' :: digits => (digitsOf? 2 digits).map Int.ofNat
    | _ =>
      let (negative, digits) := signed word
      (wholeDigits? digits).map fun value => if negative then -Int.ofNat value else Int.ofNat value
  value.filter fitsWide

/-- The exponent after `e`: decimal digits with an optional sign. -/
def exponent? (word : List Char) : Option Int :=
  let (negative, digits) := signed word
  (digitsOf? 10 digits).map fun value => if negative then -Int.ofNat value else Int.ofNat value

/-- The character that starts an exponent. -/
def marksExponent (c : Char) : Bool := c == 'e' || c == 'E'

/-- The digits and the decimal exponent of an unsigned decimal with a fraction or an exponent. -/
def decimal? (word : List Char) : Option (Nat × Int) := do
  let mantissa := word.takeWhile (!marksExponent ·)
  let whole := mantissa.takeWhile (· != '.')
  let value ← wholeDigits? whole
  let exponent ←
    match word.dropWhile (!marksExponent ·) with
    | [] => if mantissa.contains '.' then some 0 else none
    | _ :: exponent => exponent? exponent
  match mantissa.dropWhile (· != '.') with
  | [] => return (value, exponent)
  | _ :: fraction =>
    let places ← digitValues? 10 fraction
    return (ofDigits 10 places + value * Nat.pow 10 places.length, exponent - places.length)

/-- A number that is not beyond the largest finite one. -/
def isBounded : Decimal.Binary64 → Bool
  | .infinite _ => false
  | _ => true

/-- The floating point number that a word stands for. -/
def float? (word : List Char) : Option Decimal.Binary64 :=
  let (negative, magnitude) := signed word
  if magnitude = "inf".toList then some (.infinite negative)
  else if magnitude = "nan".toList then some .undefined
  else do
    let (digits, exponent) ← decimal? magnitude
    (some (Decimal.Binary64.ofDecimal negative digits exponent)).filter isBounded

end InteropGlue.Toml
