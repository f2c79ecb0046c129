import ResponseCheck.Number.Binary64

/-!
# Shortest decimal text of a binary number

Every finite binary number stands for an interval of reals that round to it. The shortest decimal is
the point of that interval with the fewest digits, and the nearest one of those; of two equally near
points the one with the even last digit.
-/

namespace ResponseCheck

/-- The decimal number `digits * 10 ^ exponent`. -/
structure Decimal where
  digits : Nat
  exponent : Int
deriving DecidableEq, Repr

namespace Binary64

/-- The interval of magnitudes that round to a number, in quarters of a unit. -/
structure Interval where
  lower : Nat
  centre : Nat
  upper : Nat
  closed : Bool

/-- The interval of a number: half a step to either side, where the step below a power of two is
half as long; the ends belong to it when the significand is even. -/
def interval (x : Binary64) : Interval :=
  let step := Nat.pow 2 x.scale
  let m := x.significand
  -- Just below a power of two the numbers lie twice as close.
  let below := if m = leadingBit ∧ 0 < x.scale then step else 2 * step
  ⟨4 * m * step - below, 4 * m * step, 4 * m * step + 2 * step, m % 2 = 0⟩

/-- Whether the point `num / den`, in quarters of a unit, lies in the interval. -/
def Interval.contains (i : Interval) (num den : Nat) : Bool :=
  if i.closed then i.lower * den ≤ num && num ≤ i.upper * den
  else i.lower * den < num && num < i.upper * den

/-- How many decimal digits a natural number has; zero has one. -/
def digitCount (n : Nat) : Nat := (Nat.toDigits 10 n).length

/-- The exponent `e` with `10 ^ e ≤ num / den < 10 ^ (e + 1)`, for a positive ratio. -/
def decimalExponent (num den : Nat) : Int :=
  if den ≤ num then (digitCount (num / den) : Int) - 1
  else
    let j := digitCount (den / num) - 1
    if den ≤ num * Nat.pow 10 j then -(j : Int) else -(j : Int) - 1

/-- The point of the decimal grid `10 ^ exponent` that is nearest to the centre of the interval,
if the grid has a point in it. -/
def nearestOnGrid (i : Interval) (exponent : Int) : Option Nat :=
  let den := 4 * unit * Nat.pow 10 exponent.toNat
  let scaled := i.centre * Nat.pow 10 (-exponent).toNat
  let inside (d : Nat) := i.contains (d * den) (Nat.pow 10 (-exponent).toNat)
  -- If any point of the grid lies inside, one of the two next to the centre does.
  let low := scaled / den
  let high := low + 1
  match inside low, inside high with
  | false, false => none
  | true, false => some low
  | false, true => some high
  | true, true =>
    let down := scaled - low * den
    let up := high * den - scaled
    if down < up then some low
    else if up < down then some high
    else some (if low % 2 = 0 then low else high)

/-- The first grid with a point in the interval, from `count` digits on. -/
def shortestFrom (i : Interval) (top : Int) : (fuel count : Nat) → Decimal
  | 0, count => ⟨(nearestOnGrid i (top - count)).getD 0, top - count⟩
  | fuel + 1, count =>
    match nearestOnGrid i (top - count) with
    | some digits => ⟨digits, top - count⟩
    | none => shortestFrom i top fuel (count + 1)

/-- The decimal with the fewest digits that rounds to the magnitude of `x`. -/
def shortest (x : Binary64) : Decimal :=
  if x.isZero then ⟨0, 0⟩
  -- Seventeen digits always read back.
  else shortestFrom x.interval (decimalExponent x.units unit) 17 0

end Binary64

/-- How a decimal is laid out: it is positional when its leading digit stands for a power of ten
from `leastPower` to `greatestPower`. -/
structure Decimal.Layout where
  leastPower : Int
  greatestPower : Int

namespace Decimal

/-- The digits of a natural number without the zeros at its end, and their count. -/
def stripZeros : (fuel : Nat) → Nat → Nat × Nat
  | 0, n => (n, 0)
  | fuel + 1, n =>
    if n ≠ 0 ∧ n % 10 = 0 then
      let (m, k) := stripZeros fuel (n / 10)
      (m, k + 1)
    else (n, 0)

/-- The same decimal without zeros at the end of its digits. -/
def normalize (d : Decimal) : Decimal :=
  let (m, k) := stripZeros (Binary64.digitCount d.digits) d.digits
  ⟨m, if m = 0 then 0 else d.exponent + k⟩

/-- The positional form, always with a digit after the point. -/
def positional (d : Decimal) : List Char :=
  let digits := Nat.toDigits 10 d.digits
  if 0 ≤ d.exponent then
    digits ++ List.replicate d.exponent.toNat '0' ++ ['.', '0']
  else
    let places := (-d.exponent).toNat
    if places < digits.length then
      digits.take (digits.length - places) ++ ['.'] ++ digits.drop (digits.length - places)
    else
      ['0', '.'] ++ List.replicate (places - digits.length) '0' ++ digits

/-- The exponent form: one digit, the other digits after a point if there are any, and the power
with its sign. -/
def scientific (d : Decimal) : List Char :=
  let digits := Nat.toDigits 10 d.digits
  let power := d.exponent + digits.length - 1
  let mantissa := match digits with
    | [] => []
    | [c] => [c]
    | c :: rest => c :: '.' :: rest
  mantissa ++ ['e', if power < 0 then '-' else '+'] ++ Nat.toDigits 10 power.natAbs

/-- A decimal in a layout. -/
def render (layout : Layout) (d : Decimal) : List Char :=
  let n := d.normalize
  let power := n.exponent + Binary64.digitCount n.digits - 1
  if layout.leastPower ≤ power ∧ power ≤ layout.greatestPower then n.positional else n.scientific

end Decimal

/-- The shortest text that reads back as the number. -/
def Binary64.render (layout : Decimal.Layout) (x : Binary64) : List Char :=
  (if x.negative then ['-'] else []) ++ x.shortest.render layout

end ResponseCheck
