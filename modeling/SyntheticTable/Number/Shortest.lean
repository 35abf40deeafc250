import SyntheticTable.Number.Decimal

/-!
# Shortest decimals

The decimal with the fewest digits among those that a binary format rounds to
a given number.

Around a positive number lies the interval of quantities that round to it.  It
reaches half way to either neighbour, and an end belongs to it exactly when the
significand is even.  Grids of decimals are tried from one digit on.  A grid
with a point inside the interval has one among the two points around the
number itself, so only these are tested; the nearer of two is taken.
-/

namespace SyntheticTable

/-- Which of two equally near decimals is taken. -/
inductive DecimalTie where
  | toEven
  | upward
deriving DecidableEq, Repr

/--
A positive number and the quantities that round to it, as multiples of
`1 / denominator`.
-/
structure RoundingInterval where
  value : Nat
  low : Nat
  high : Nat
  denominator : Nat
  /-- Whether the two ends belong to the interval. -/
  closed : Bool
deriving DecidableEq, Repr

namespace RoundingInterval

/--
The interval of a number `significand · 2 ^ exponent` in a format.  Below the
least significand of an exponent the numbers lie twice as close, unless the
exponent is the least of all.
-/
def of
    (format : BinaryFormat)
    (significand : Nat)
    (exponent : Int) :
    RoundingInterval :=
  let quarterExponent := exponent - 2
  let scale := twoTo quarterExponent.toNat
  let narrow :=
    significand = twoTo format.fractionBits ∧ format.leastExponent < exponent
  { value := 4 * significand * scale
    low := (4 * significand - (if narrow then 1 else 2)) * scale
    high := (4 * significand + 2) * scale
    denominator := twoTo (-quarterExponent).toNat
    closed := significand % 2 = 0 }

/-- Whether `point · 10 ^ power` lies in the interval. -/
def contains
    (interval : RoundingInterval)
    (power : Int)
    (point : Nat) :
    Bool :=
  let position := point * tenTo power.toNat * interval.denominator
  let low := interval.low * tenTo (-power).toNat
  let high := interval.high * tenTo (-power).toNat
  if interval.closed then low ≤ position && position ≤ high
  else low < position && position < high

/-- The greatest `point` with `point · 10 ^ power` at most the number. -/
def pointBelow (interval : RoundingInterval) (power : Int) : Nat :=
  interval.value * tenTo (-power).toNat
    / (interval.denominator * tenTo power.toNat)

/--
The point taken on one grid, if one of the two points around the number lies
in the interval.
-/
def pointOn?
    (interval : RoundingInterval)
    (tie : DecimalTie)
    (power : Int) :
    Option Nat :=
  let below := interval.pointBelow power
  let above := below + 1
  match interval.contains power below, interval.contains power above with
  | false, false => none
  | true, false => some below
  | false, true => some above
  | true, true =>
      let middle := (below + above) * tenTo power.toNat * interval.denominator
      let doubled := 2 * (interval.value * tenTo (-power).toNat)
      if doubled < middle then some below
      else if middle < doubled then some above
      else
        match tie with
        | .upward => some above
        | .toEven => if below % 2 = 0 then some below else some above

/-- The exponent of the leading decimal digit of the number. -/
def leadingExponent (interval : RoundingInterval) : Int :=
  let estimate : Int :=
    (decimalDigits interval.value).length
      - (decimalDigits interval.denominator).length
  if interval.denominator * tenTo estimate.toNat
      ≤ interval.value * tenTo (-estimate).toNat then
    estimate
  else
    estimate - 1

/--
The point on the first grid that has one, with the power of ten of the grid.
The given number of grids is tried, each ten times as fine as the one before.
-/
def firstPoint
    (interval : RoundingInterval)
    (tie : DecimalTie) :
    (grids : Nat) → (power : Int) → Nat × Int
  | 0, power => (interval.pointBelow power, power)
  | grids + 1, power =>
      match interval.pointOn? tie power with
      | some point => (point, power)
      | none => interval.firstPoint tie grids (power - 1)

end RoundingInterval

/-- Moves the zeros at the end of a whole number into its power of ten. -/
def withoutTrailingZeros (digits : Nat) (exponent : Int) : Nat × Int :=
  if zeros : digits ≠ 0 ∧ digits % 10 = 0 then
    withoutTrailingZeros (digits / 10) (exponent + 1)
  else
    (digits, exponent)
termination_by digits
decreasing_by omega

/-- How many decimal digits tell all numbers of a format apart. -/
def BinaryFormat.decimalPrecision (format : BinaryFormat) : Nat :=
  (format.fractionBits + 1) * 30103 / 100000 + 2

/--
The shortest decimal that a format rounds to `significand · 2 ^ exponent`,
and of several the nearest.
-/
def shortestDecimal
    (format : BinaryFormat)
    (tie : DecimalTie)
    (negative : Bool)
    (significand : Nat)
    (exponent : Int) :
    Decimal :=
  if significand = 0 then
    { negative, digits := 0, exponent := 0 }
  else
    let interval := RoundingInterval.of format significand exponent
    let (point, power) :=
      interval.firstPoint tie format.decimalPrecision interval.leadingExponent
    let (digits, exponent) := withoutTrailingZeros point power
    { negative, digits, exponent }

end SyntheticTable
