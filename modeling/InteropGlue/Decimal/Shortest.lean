import InteropGlue.Decimal.Binary64
/-!
# Shortest decimal text

The text of a floating point number has the fewest digits that read back as the same number, and
among those the nearest ones. It is written positionally whatever its size, and a whole number keeps
one place after the point.

## Main Definitions

* `shortestDigits` — the digits and the decimal exponent of a positive number.
* `Binary64.text` — the text of a number.

## Design Notes

The reals that round to a number form an interval, whose ends belong to it exactly when the mantissa
is even. The decimals with exponent `g` form a grid, and if a point of a grid lies in the interval
then so does one of the two neighbours of the number on that grid. Grids are tried from coarse to
fine, so the first one with a neighbour in the interval gives the fewest digits.
-/

namespace InteropGlue.Decimal

/-- A positive number with the interval that rounds to it: `value`, `low` and `high` over the common
denominator `scale`. -/
structure Rounding where
  value : Nat
  low : Nat
  high : Nat
  scale : Nat
  closed : Bool

/-- The interval of `mantissa · 2 ^ exponent`. Below a power of two the numbers are twice as dense,
which moves the lower end nearer. -/
def Rounding.of (mantissa : Nat) (exponent : Int) : Rounding :=
  let lowerGap := if mantissa = Nat.pow 2 52 ∧ -1074 < exponent then 1 else 2
  let factor := Nat.pow 2 (exponent - 2).toNat
  { value := 4 * mantissa * factor
    low := (4 * mantissa - lowerGap) * factor
    high := (4 * mantissa + 2) * factor
    scale := Nat.pow 2 (2 - exponent).toNat
    closed := mantissa % 2 = 0 }

/-- The nearest point of the grid with exponent `g` that lies in the interval, if one of the two
neighbours of the number does. -/
def Rounding.nearestOnGrid? (r : Rounding) (g : Int) : Option Nat :=
  let up := Nat.pow 10 (-g).toNat
  let step := r.scale * Nat.pow 10 g.toNat
  let below := r.value * up / step
  let above := below + 1
  let inside (point : Nat) : Bool :=
    if r.closed then r.low * up ≤ point * step && point * step ≤ r.high * up
    else r.low * up < point * step && point * step < r.high * up
  let remainder := r.value * up % step
  match decide (0 < below) && inside below, inside above with
  | true, true => some (if 2 * remainder ≤ step then below else above)
  | true, false => some below
  | false, true => some above
  | false, false => none

/-- The search through the grids with exponents `g`, `g - 1`, … -/
def Rounding.search (r : Rounding) : Nat → Int → Nat × Int
  | 0, g => (0, g)
  | count + 1, g =>
    match r.nearestOnGrid? g with
    | some digits => (digits, g)
    | none => r.search count (g - 1)

/-- The digits and the decimal exponent of a positive number. No number needs a grid coarser than
`10 ^ 309` or finer than `10 ^ -342`. -/
def shortestDigits (mantissa : Nat) (exponent : Int) : Nat × Int :=
  (Rounding.of mantissa exponent).search 652 309

/-- The decimal `digits · 10 ^ exponent` in positional notation, with at least one place. -/
def positional (digits : Nat) (exponent : Int) : List Char :=
  let shown := Nat.toDigits 10 digits
  if 0 ≤ exponent then shown ++ List.replicate exponent.toNat '0' ++ ['.', '0']
  else
    let places := (-exponent).toNat
    let padded := List.replicate (places + 1 - shown.length) '0' ++ shown
    padded.take (padded.length - places) ++ '.' :: padded.drop (padded.length - places)

/-- The text of a number. -/
def Binary64.text : Binary64 → String
  | .undefined => "NaN"
  | .infinite negative => (if negative then "-" else "") ++ "inf"
  | .finite negative mantissa exponent =>
    let (digits, place) := if mantissa = 0 then (0, 0) else shortestDigits mantissa exponent
    (if negative then "-" else "") ++ String.ofList (positional digits place)

end InteropGlue.Decimal
