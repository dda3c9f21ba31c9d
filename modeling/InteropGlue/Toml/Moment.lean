import InteropGlue.Toml.Number
/-!
# Dates and times

A moment is a date, a time, or a date and a time, the last also with an offset. The parts have fixed
widths and their ranges, and a day exists in its month. Seconds may be left out.

## Main Definitions

* `isDate`, `isTime`, `isOffset` — the parts.
* `isMoment` — a whole moment.
-/

namespace InteropGlue.Toml

/-- The number that `width` decimal digits at the front of a word stand for, with the rest. -/
def fixedDigits? (width : Nat) (word : List Char) : Option (Nat × List Char) := do
  let digits ← (word.take width).mapM (digitOf? 10)
  if digits.length = width then some (ofDigits 10 digits, word.drop width) else none

/-- A word without its first character, which must be `c`. -/
def afterChar? (c : Char) (word : List Char) : Option (List Char) :=
  match word with
  | first :: rest => if first = c then some rest else none
  | [] => none

/-- A year with a day more in February. -/
def isLeapYear (year : Nat) : Bool := year % 4 == 0 && (year % 100 != 0 || year % 400 == 0)

/-- The number of days in a month, none outside the year. -/
def daysInMonth (year month : Nat) : Nat :=
  if month = 2 then (if isLeapYear year then 29 else 28)
  else if month ∈ [4, 6, 9, 11] then 30
  else if 1 ≤ month ∧ month ≤ 12 then 31
  else 0

/-- A word without the date at its front. -/
def afterDate? (word : List Char) : Option (List Char) := do
  let (year, word) ← fixedDigits? 4 word
  let word ← afterChar? '-' word
  let (month, word) ← fixedDigits? 2 word
  let word ← afterChar? '-' word
  let (day, word) ← fixedDigits? 2 word
  if 1 ≤ day ∧ day ≤ daysInMonth year month then some word else none

/-- A word without the fraction of a second at its front, if there is one. -/
def afterFraction? (word : List Char) : Option (List Char) :=
  match word with
  | '.' :: c :: rest =>
    if c.isDigit then some (rest.dropWhile Char.isDigit) else none
  | '.' :: [] => none
  | _ => some word

/-- A word without the seconds at its front, if there are any. A leap second is second 60. -/
def afterSeconds? (word : List Char) : Option (List Char) :=
  match word with
  | ':' :: rest => do
    let (second, rest) ← fixedDigits? 2 rest
    if second ≤ 60 then afterFraction? rest else none
  | _ => some word

/-- A word without the hours and minutes at its front. -/
def afterMinutes? (word : List Char) : Option (List Char) := do
  let (hour, word) ← fixedDigits? 2 word
  let word ← afterChar? ':' word
  let (minute, word) ← fixedDigits? 2 word
  if hour ≤ 23 ∧ minute ≤ 59 then some word else none

/-- A word without the time at its front. -/
def afterTime? (word : List Char) : Option (List Char) := afterMinutes? word >>= afterSeconds?

/-- A word that is an offset from universal time, or nothing. -/
def isOffset (word : List Char) : Bool :=
  match word with
  | [] => true
  | ['Z'] | ['z'] => true
  | '+' :: rest | '-' :: rest => afterMinutes? rest == some []
  | _ => false

/-- The character between a date and a time. -/
def separatesTime (c : Char) : Bool := c == 'T' || c == 't' || c == ' '

/-- A word that is a moment. -/
def isMoment (word : List Char) : Bool :=
  match afterDate? word with
  | some [] => true
  | some (c :: rest) =>
    separatesTime c &&
      match afterTime? rest with
      | some rest => isOffset rest
      | none => false
  | none => afterTime? word == some []

end InteropGlue.Toml
