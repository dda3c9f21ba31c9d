/-!
# Binary floating point numbers

The finite numbers `m · 2 ^ e` with a mantissa of at most 53 bits and an exponent from -1074 to 971,
the two infinities and the undefined number. A decimal is read as the nearest of them, and of two
equally near ones as the one with the even mantissa.

## Main Definitions

* `Binary64` — a number, given by its sign, mantissa and exponent.
* `Binary64.ofDecimal` — the number nearest to `digits · 10 ^ exponent`.

## Design Notes

All arithmetic is on natural numbers. A decimal far outside the range is settled by its magnitude
alone, before any power of ten is formed.
-/

namespace InteropGlue.Decimal

/-- A floating point number of 64 bits. -/
inductive Binary64
  /-- The number `mantissa · 2 ^ exponent`, negated if `negative`. -/
  | finite (negative : Bool) (mantissa : Nat) (exponent : Int)
  | infinite (negative : Bool)
  | undefined
  deriving DecidableEq, Repr, Inhabited

/-- The quotient rounded to the nearest natural number, a half to the even neighbour. -/
def roundQuotient (numerator denominator : Nat) : Nat :=
  let quotient := numerator / denominator
  let doubled := 2 * (numerator % denominator)
  if doubled < denominator then quotient
  else if denominator < doubled then quotient + 1
  else quotient + quotient % 2

/-- The exponent `b` with `2 ^ b ≤ numerator / denominator < 2 ^ (b + 1)`, for positive numbers. -/
def binaryMagnitude (numerator denominator : Nat) : Int :=
  let guess : Int := numerator.log2 - denominator.log2
  if denominator * Nat.pow 2 guess.toNat ≤ numerator * Nat.pow 2 (-guess).toNat then guess
  else guess - 1

/-- The number nearest to a positive quotient. -/
def Binary64.ofQuotient (negative : Bool) (numerator denominator : Nat) : Binary64 :=
  let exponent := max (binaryMagnitude numerator denominator - 52) (-1074)
  let mantissa :=
    roundQuotient (numerator * Nat.pow 2 (-exponent).toNat)
      (denominator * Nat.pow 2 exponent.toNat)
  let (mantissa, exponent) :=
    if mantissa = Nat.pow 2 53 then (Nat.pow 2 52, exponent + 1) else (mantissa, exponent)
  if 971 < exponent then .infinite negative else .finite negative mantissa exponent

/-- The number nearest to `digits · 10 ^ exponent`. -/
def Binary64.ofDecimal (negative : Bool) (digits : Nat) (exponent : Int) : Binary64 :=
  let magnitude : Int := (Nat.toDigits 10 digits).length + exponent
  if digits = 0 ∨ magnitude < -330 then .finite negative 0 0
  else if 330 < magnitude then .infinite negative
  else .ofQuotient negative (digits * Nat.pow 10 exponent.toNat)
    (Nat.pow 10 (-exponent).toNat)

end InteropGlue.Decimal
