import Mathlib.Algebra.Order.Group.Abs
import Mathlib.Data.Int.Basic
import Mathlib.Tactic.Linarith
import Mathlib.Tactic.LinearCombination
import Mathlib.Tactic.Ring
import Mathlib.Tactic.Zify
import SyntheticTable.Number.Power

/-!
# Gaps between fractions

How close can a fraction with a small numerator come to a given ratio?  If the
ratio lies between two neighbours, fractions `p / q` and `p' / q'` with
`p' q - p q' = 1`, then each other fraction is a combination of the two with
whole coefficients.  It either is a multiple of one of them, or has a numerator
of at least `p + p'`, or misses the ratio by as much as both together.

The neighbours are searched by way of mediants.  Nothing is said about the
search: what it finds is checked.
-/

namespace SyntheticTable

/-- A fraction that need not be in lowest terms. -/
structure Fraction where
  numerator : Nat
  denominator : Nat
deriving DecidableEq, Repr

/-- A ratio between two fractions. -/
structure Bracket where
  lower : Fraction
  upper : Fraction
deriving DecidableEq, Repr

namespace Fraction

/-- By how much a fraction misses a ratio, in units of one over both denominators. -/
def gap (ratio fraction : Fraction) : Nat :=
  (fraction.denominator * ratio.numerator
      - fraction.numerator * ratio.denominator)
    + (fraction.numerator * ratio.denominator
      - fraction.denominator * ratio.numerator)

/-- A fraction that is extended by another one several times. -/
def plus (fraction : Fraction) (times : Nat) (other : Fraction) : Fraction where
  numerator := fraction.numerator + times * other.numerator
  denominator := fraction.denominator + times * other.denominator

/-- A fraction with both parts multiplied. -/
def times (fraction : Fraction) (count : Nat) : Fraction where
  numerator := count * fraction.numerator
  denominator := count * fraction.denominator

theorem gap_eq_abs (ratio fraction : Fraction) :
    (ratio.gap fraction : Int) =
      |(fraction.numerator : Int) * ratio.denominator
        - fraction.denominator * ratio.numerator| := by
  rw [← Int.natCast_mul, ← Int.natCast_mul, gap, Int.abs_eq_natAbs]
  omega

theorem gap_times (ratio fraction : Fraction) (count : Nat) :
    ratio.gap (fraction.times count) = count * ratio.gap fraction := by
  simp only [gap, times, Nat.mul_assoc, ← Nat.mul_sub, ← Nat.mul_add]

theorem eq_times
    {fraction other : Fraction}
    {count : Int}
    (nonneg : 0 ≤ count)
    (numerator : (fraction.numerator : Int) = count * other.numerator)
    (denominator : (fraction.denominator : Int) = count * other.denominator) :
    fraction = other.times count.toNat := by
  rw [← Int.toNat_of_nonneg nonneg] at numerator denominator
  cases fraction
  rw [times, mk.injEq]
  exact_mod_cast And.intro numerator denominator

end Fraction

namespace Bracket

/--
How often a fraction can be extended by another one before the ratio is passed,
given the gaps of both, or at most as often as there is room.
-/
def extensions (most gap otherGap : Nat) : Nat :=
  if otherGap = 0 then most else min most (gap / otherGap)

/--
Fractions closer to a ratio, up to a bound on the sum of their numerators.  The
one that is farther away is extended by the other.
-/
def refine (ratio : Fraction) (bound : Nat) :
    (steps : Nat) → Bracket → Bracket
  | 0, bracket => bracket
  | steps + 1, ⟨lower, upper⟩ =>
      let below := ratio.gap lower
      let above := ratio.gap upper
      let sum := lower.numerator + upper.numerator
      if bound ≤ sum then
        ⟨lower, upper⟩
      else if above ≤ below then
        let most := (bound - 1 - sum) / upper.numerator + 1
        refine ratio bound steps
          ⟨lower.plus (extensions most below above) upper, upper⟩
      else
        let most := (bound - 1 - sum) / lower.numerator + 1
        refine ratio bound steps
          ⟨lower, upper.plus (extensions most above below) lower⟩

/-- The fractions around a ratio of which the numerators reach a bound. -/
def around (ratio : Fraction) (bound : Nat) : Bracket :=
  refine ratio bound 64 ⟨⟨0, 1⟩, ⟨1, 0⟩⟩

/-- The fractions are neighbours with a ratio between them. -/
structure Encloses (bracket : Bracket) (ratio : Fraction) : Prop where
  neighbours :
    bracket.upper.numerator * bracket.lower.denominator
      = bracket.lower.numerator * bracket.upper.denominator + 1
  below :
    bracket.lower.numerator * ratio.denominator
      ≤ bracket.lower.denominator * ratio.numerator
  above :
    bracket.upper.denominator * ratio.numerator
      ≤ bracket.upper.numerator * ratio.denominator

instance (bracket : Bracket) (ratio : Fraction) :
    Decidable (bracket.Encloses ratio) :=
  decidable_of_iff
    (bracket.upper.numerator * bracket.lower.denominator
        = bracket.lower.numerator * bracket.upper.denominator + 1
      ∧ bracket.lower.numerator * ratio.denominator
        ≤ bracket.lower.denominator * ratio.numerator
      ∧ bracket.upper.denominator * ratio.numerator
        ≤ bracket.upper.numerator * ratio.denominator)
    ⟨fun ⟨neighbours, below, above⟩ => ⟨neighbours, below, above⟩,
      fun ⟨neighbours, below, above⟩ => ⟨neighbours, below, above⟩⟩

/--
The signs of the coefficients of a positive number that is less than the sum of
the two numbers it is made of: they are opposite, or one of them is zero.
-/
theorem combination_signs
    {coefficient coefficient' part part' : Int}
    (partNonneg : 0 ≤ part)
    (partNonneg' : 0 ≤ part')
    (positive : 0 < coefficient * part + coefficient' * part')
    (small : coefficient * part + coefficient' * part' < part + part') :
    (coefficient < 0 ∧ 0 < coefficient' ∨ 0 < coefficient ∧ coefficient' < 0)
      ∨ 0 < coefficient ∧ coefficient' = 0
      ∨ coefficient = 0 ∧ 0 < coefficient' := by
  have notBothLow : ¬(coefficient ≤ 0 ∧ coefficient' ≤ 0) := by
    rintro ⟨low, low'⟩
    have first := mul_nonpos_of_nonpos_of_nonneg low partNonneg
    have second := mul_nonpos_of_nonpos_of_nonneg low' partNonneg'
    omega
  have notBothHigh : ¬(1 ≤ coefficient ∧ 1 ≤ coefficient') := by
    rintro ⟨high, high'⟩
    have first := le_mul_of_one_le_left partNonneg high
    have second := le_mul_of_one_le_left partNonneg' high'
    omega
  omega

/-- Two amounts with opposite signs add up to at least one of each. -/
theorem add_le_abs_of_opposite
    {coefficient coefficient' amount amount' : Int}
    (nonneg : 0 ≤ amount)
    (nonneg' : 0 ≤ amount')
    (opposite :
      coefficient < 0 ∧ 0 < coefficient'
        ∨ 0 < coefficient ∧ coefficient' < 0) :
    amount + amount' ≤ |coefficient' * amount' - coefficient * amount| := by
  rcases opposite with ⟨low, high⟩ | ⟨high, low⟩
  · have first := le_mul_of_one_le_left nonneg (by omega : 1 ≤ -coefficient)
    have second := le_mul_of_one_le_left nonneg' (by omega : 1 ≤ coefficient')
    refine le_trans ?_ (le_abs_self _)
    linarith only [first, second]
  · have first := le_mul_of_one_le_left nonneg (by omega : 1 ≤ coefficient)
    have second := le_mul_of_one_le_left nonneg' (by omega : 1 ≤ -coefficient')
    refine le_trans ?_ (neg_le_abs _)
    linarith only [first, second]

namespace Encloses

variable
    {bracket : Bracket}
    {ratio : Fraction}
    (encloses : bracket.Encloses ratio)
    {fraction : Fraction}

include encloses

theorem gap_lower :
    (ratio.gap bracket.lower : Int) =
      bracket.lower.denominator * ratio.numerator
        - bracket.lower.numerator * ratio.denominator := by
  rw [Fraction.gap_eq_abs, abs_sub_comm, abs_of_nonneg]
  exact_mod_cast sub_nonneg.mpr (Int.ofNat_le.mpr encloses.below)

theorem gap_upper :
    (ratio.gap bracket.upper : Int) =
      bracket.upper.numerator * ratio.denominator
        - bracket.upper.denominator * ratio.numerator := by
  rw [Fraction.gap_eq_abs, abs_of_nonneg]
  exact_mod_cast sub_nonneg.mpr (Int.ofNat_le.mpr encloses.above)

/-- The neighbours have determinant one, so each fraction is made of them. -/
theorem exists_coefficients (fraction : Fraction) :
    ∃ coefficient coefficient' : Int,
      (fraction.numerator : Int) =
          coefficient * bracket.lower.numerator
            + coefficient' * bracket.upper.numerator
        ∧ (fraction.denominator : Int) =
          coefficient * bracket.lower.denominator
            + coefficient' * bracket.upper.denominator := by
  have unit :
      (bracket.upper.numerator : Int) * bracket.lower.denominator =
        bracket.lower.numerator * bracket.upper.denominator + 1 := by
    exact_mod_cast encloses.neighbours
  refine
    ⟨bracket.upper.numerator * fraction.denominator
        - bracket.upper.denominator * fraction.numerator,
      bracket.lower.denominator * fraction.numerator
        - bracket.lower.numerator * fraction.denominator, ?_, ?_⟩
  · linear_combination -fraction.numerator * unit
  · linear_combination -fraction.denominator * unit

/-- The gap of a fraction that is made of both neighbours. -/
theorem gap_combination
    {coefficient coefficient' : Int}
    (numerator :
      (fraction.numerator : Int) =
        coefficient * bracket.lower.numerator
          + coefficient' * bracket.upper.numerator)
    (denominator :
      (fraction.denominator : Int) =
        coefficient * bracket.lower.denominator
          + coefficient' * bracket.upper.denominator) :
    (ratio.gap fraction : Int) =
      |coefficient' * ratio.gap bracket.upper
        - coefficient * ratio.gap bracket.lower| := by
  rw [encloses.gap_lower, encloses.gap_upper, Fraction.gap_eq_abs, numerator,
    denominator]
  congr 1
  ring

/--
A fraction with a numerator that is not too great misses the ratio by as much
as both neighbours together, unless it is a multiple of one of them.
-/
theorem gap_or_times
    (positive : 0 < fraction.numerator)
    (small :
      fraction.numerator < bracket.lower.numerator + bracket.upper.numerator) :
    ratio.gap bracket.lower + ratio.gap bracket.upper ≤ ratio.gap fraction
      ∨ (∃ count, 0 < count ∧ fraction = bracket.lower.times count)
      ∨ ∃ count, 0 < count ∧ fraction = bracket.upper.times count := by
  obtain ⟨coefficient, coefficient', numerator, denominator⟩ :=
    encloses.exists_coefficients fraction
  have positiveSum := Int.natCast_pos.mpr positive
  have smallSum := Int.ofNat_lt.mpr small
  rw [numerator] at positiveSum smallSum
  rw [Int.natCast_add] at smallSum
  rcases combination_signs (Int.natCast_nonneg _) (Int.natCast_nonneg _)
    positiveSum smallSum with opposite | ⟨high, zero⟩ | ⟨zero, high⟩
  · left
    zify
    rw [encloses.gap_combination numerator denominator]
    exact
      add_le_abs_of_opposite (Int.natCast_nonneg _) (Int.natCast_nonneg _)
        opposite
  · rw [zero, zero_mul, add_zero] at numerator denominator
    exact .inr (.inl ⟨coefficient.toNat, by omega,
      Fraction.eq_times high.le numerator denominator⟩)
  · rw [zero, zero_mul, zero_add] at numerator denominator
    exact .inr (.inr ⟨coefficient'.toNat, by omega,
      Fraction.eq_times high.le numerator denominator⟩)

end Encloses

end Bracket

end SyntheticTable
