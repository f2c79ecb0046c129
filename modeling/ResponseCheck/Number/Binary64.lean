/-!
# Finite binary numbers of 64 bits

A finite number of the binary64 format is a sign, a biased exponent and a fraction. All arithmetic
here is exact on naturals, followed by one rounding to the nearest representable number, where a tie
goes to the even significand.
-/

namespace ResponseCheck

/-- The significand of the least normal number, two to the power of 52. -/
abbrev Binary64.leadingBit : Nat := 0x10000000000000

/-- A finite binary floating-point number of 64 bits. -/
structure Binary64 where
  negative : Bool
  exponent : Fin 2047
  fraction : Fin Binary64.leadingBit
deriving DecidableEq, Repr

namespace Binary64

/-- The integer significand, with the hidden bit of a normal number. -/
def significand (x : Binary64) : Nat :=
  if x.exponent.val = 0 then x.fraction.val else leadingBit + x.fraction.val

/-- The power of two, above `2 ^ (-1074)`, by which the significand is scaled. -/
def scale (x : Binary64) : Nat := x.exponent.val - 1

/-- The magnitude as a multiple of `2 ^ (-1074)`. -/
def units (x : Binary64) : Nat := x.significand * Nat.pow 2 x.scale

/-- How many units make one. -/
def unit : Nat := Nat.pow 2 1074

/-- Positive zero. -/
def zero : Binary64 := ⟨false, ⟨0, by decide⟩, ⟨0, by decide⟩⟩

/-- Either zero. -/
def isZero (x : Binary64) : Bool := x.exponent.val == 0 && x.fraction.val == 0

/-- The number with the opposite sign. -/
def neg (x : Binary64) : Binary64 := { x with negative := !x.negative }

/-- Numeric equality: the two zeros are equal. -/
def eqv (x y : Binary64) : Bool := x == y || (x.isZero && y.isZero)

/-- The quotient rounded to the nearest natural number, a tie to the even one. -/
def roundDiv (num den : Nat) : Nat :=
  let q := num / den
  let r := num % den
  if 2 * r < den then q
  else if den < 2 * r then q + 1
  else if q % 2 = 0 then q else q + 1

/-- The number with the given significand and scale, if both are in range. -/
def ofParts? (negative : Bool) (significand scale : Nat) : Option Binary64 :=
  if h : significand < leadingBit then
    if scale = 0 then some ⟨negative, ⟨0, by decide⟩, ⟨significand, h⟩⟩ else none
  else if h : significand - leadingBit < leadingBit ∧ scale + 1 < 2047 then
    some ⟨negative, ⟨scale + 1, h.2⟩, ⟨significand - leadingBit, h.1⟩⟩
  else none

/-- The nearest number to `± num / den`, a tie to the even significand; `none` if that overflows. -/
def ofRatio? (negative : Bool) (num den : Nat) : Option Binary64 :=
  let n := num * unit
  -- At this scale the quotient has 53 bits, or fewer near zero.
  let scale := Nat.log2 (n / den) - 52
  let s := roundDiv n (den * Nat.pow 2 scale)
  -- Rounding up may carry into the next power of two.
  if s = 2 * leadingBit then ofParts? negative leadingBit (scale + 1) else ofParts? negative s scale

/-- The nearest number to an integer. -/
def ofInt? (n : Int) : Option Binary64 := ofRatio? (n < 0) n.natAbs 1

/-- The rounded product. -/
def mul? (x y : Binary64) : Option Binary64 :=
  ofRatio? (x.negative != y.negative) (x.units * y.units) (unit * unit)

/-- The rounded quotient; `none` for a zero divisor. -/
def div? (x y : Binary64) : Option Binary64 :=
  if y.isZero then none else ofRatio? (x.negative != y.negative) x.units y.units

/-- The nearest number to `± digits * 10 ^ exponent`. An exponent far beyond the range is cut to
one that gives the same result. -/
def ofDecimal? (negative : Bool) (digits : Nat) (exponent : Int) : Option Binary64 :=
  if digits = 0 then some { zero with negative := negative }
  else if 400 < exponent then none
  else if 0 ≤ exponent then ofRatio? negative (digits * Nat.pow 10 exponent.toNat) 1
  else if (digits.log2 : Int) + 1200 + 3 * exponent < 0 then some { zero with negative := negative }
  else ofRatio? negative digits (Nat.pow 10 (-exponent).toNat)

end Binary64

end ResponseCheck
