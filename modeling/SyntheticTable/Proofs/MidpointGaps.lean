import SyntheticTable.Proofs.FractionGaps
import SyntheticTable.Proofs.NumberRange

/-!
# Decimals near midpoints

Half way between two neighbouring numbers of 32 bits lies an odd multiple of
half their distance.  A decimal on a grid that is about as coarse as these
numbers either is such a midpoint, or keeps a distance from all of them of more
than the `2 ^ 30`th part of the distance of the numbers.  There is one
exception, found by trying all exponents: `7038531 · 10 ^ -32` is as close as
that to `22841339 · 2 ^ -108`.
-/

namespace SyntheticTable

/-! ## The search -/

/-- The least power of ten with a grid about as coarse as a power of two. -/
def coarseGrid (exponent : Int) : Int :=
  (exponent * 30103 + 99999) / 100000

/-- The step of the decimal grid in units of half the power of two. -/
def gridRatio (exponent : Int) : Fraction where
  numerator :=
    tenTo (coarseGrid exponent).toNat * twoTo (1 - exponent).toNat
  denominator :=
    tenTo (-coarseGrid exponent).toNat * twoTo (-(1 - exponent)).toNat

/-- The exponent at which a decimal comes too close to a midpoint. -/
def closeExponent : Int := -107

/-- The midpoint and the decimal that is too close to it, on their grids. -/
def closePair : Fraction := ⟨22841339, 7038531⟩

/-- A fraction equals a ratio or misses it by more than `2 ^ -29`. -/
def KeepsDistance (exponent : Int) (fraction : Fraction) : Prop :=
  (gridRatio exponent).gap fraction = 0
    ∨ (gridRatio exponent).denominator
      < twoTo 29 * (gridRatio exponent).gap fraction
    ∨ exponent = closeExponent ∧ fraction = closePair

instance (exponent : Int) (fraction : Fraction) :
    Decidable (KeepsDistance exponent fraction) :=
  inferInstanceAs (Decidable (_ ∨ _ ∨ _))

/-- What the neighbours around the ratio of an exponent are checked for. -/
structure Separated (exponent : Int) (bracket : Bracket) : Prop where
  encloses : bracket.Encloses (gridRatio exponent)
  reaches : twoTo 25 ≤ bracket.lower.numerator + bracket.upper.numerator
  apart :
    (gridRatio exponent).denominator
      < twoTo 29
        * ((gridRatio exponent).gap bracket.lower
          + (gridRatio exponent).gap bracket.upper)
  lower : KeepsDistance exponent bracket.lower
  upper : KeepsDistance exponent bracket.upper
  /-- The next finer grid is finer than the power of two. -/
  finer :
    twoTo 29 * tenTo (coarseGrid exponent - 1).toNat * twoTo (-exponent).toNat
      < (twoTo 29 - 1) * twoTo exponent.toNat
        * tenTo (-(coarseGrid exponent - 1)).toNat

instance (exponent : Int) (bracket : Bracket) :
    Decidable (Separated exponent bracket) :=
  decidable_of_iff
    (bracket.Encloses (gridRatio exponent)
      ∧ twoTo 25 ≤ bracket.lower.numerator + bracket.upper.numerator
      ∧ (gridRatio exponent).denominator
        < twoTo 29
          * ((gridRatio exponent).gap bracket.lower
            + (gridRatio exponent).gap bracket.upper)
      ∧ KeepsDistance exponent bracket.lower
      ∧ KeepsDistance exponent bracket.upper
      ∧ twoTo 29 * tenTo (coarseGrid exponent - 1).toNat
          * twoTo (-exponent).toNat
        < (twoTo 29 - 1) * twoTo exponent.toNat
          * tenTo (-(coarseGrid exponent - 1)).toNat)
    ⟨fun ⟨encloses, reaches, apart, lower, upper, finer⟩ =>
        ⟨encloses, reaches, apart, lower, upper, finer⟩,
      fun ⟨encloses, reaches, apart, lower, upper, finer⟩ =>
        ⟨encloses, reaches, apart, lower, upper, finer⟩⟩

/-- The neighbours are found for all exponents of numbers of 32 bits. -/
theorem separated_places :
    ∀ place < 254,
      Separated ((place : Nat) - 149)
        (.around (gridRatio ((place : Nat) - 149)) (twoTo 25)) := by
  decide +kernel

theorem separated
    {exponent : Int}
    (least : -149 ≤ exponent)
    (greatest : exponent ≤ 104) :
    Separated exponent (.around (gridRatio exponent) (twoTo 25)) := by
  have found := separated_places (exponent + 149).toNat (by omega)
  rwa [show (((exponent + 149).toNat : Nat) : Int) - 149 = exponent by omega]
    at found

/-! ## Distances -/

section Distances

variable (exponent : Int)

theorem gridRatio_denominator_pos :
    (0 : ℚ) < (gridRatio exponent).denominator := by
  simp only [gridRatio, twoTo, tenTo, Nat.pow_eq]
  positivity

theorem gridRatio_numerator :
    ((gridRatio exponent).numerator : ℚ) =
      10 ^ coarseGrid exponent * 2 ^ (1 - exponent)
        * (gridRatio exponent).denominator := by
  rw [zpow_eq_div 10 (by norm_num), zpow_eq_div 2 (by norm_num)]
  simp only [gridRatio, twoTo, tenTo, Nat.pow_eq]
  push_cast
  field_simp

/-- The gap of two points on their grids is their distance in finer units. -/
theorem gap_eq_distance (midpoint point : Nat) :
    ((gridRatio exponent).gap ⟨midpoint, point⟩ : ℚ) =
      |(point : ℚ) * 10 ^ coarseGrid exponent - midpoint * 2 ^ (exponent - 1)|
        * (2 ^ (1 - exponent) * (gridRatio exponent).denominator) := by
  have unit : (2 : ℚ) ^ (exponent - 1) * 2 ^ (1 - exponent) = 1 := by
    rw [← zpow_add₀ (by norm_num)]
    norm_num
  have scale :
      (0 : ℚ) < 2 ^ (1 - exponent) * (gridRatio exponent).denominator :=
    mul_pos (by positivity) (gridRatio_denominator_pos exponent)
  have gap :
      ((gridRatio exponent).gap ⟨midpoint, point⟩ : ℚ) =
        |(midpoint : ℚ) * (gridRatio exponent).denominator
          - point * (gridRatio exponent).numerator| := by
    exact_mod_cast
      congrArg (Int.cast : Int → ℚ)
        ((gridRatio exponent).gap_eq_abs ⟨midpoint, point⟩)
  rw [gap, gridRatio_numerator, abs_sub_comm, ← abs_of_pos scale, ← abs_mul]
  congr 1
  linear_combination
    (midpoint : ℚ) * (gridRatio exponent).denominator * unit

theorem gap_le_of_close
    {midpoint point : Nat}
    (close :
      |(point : ℚ) * 10 ^ coarseGrid exponent - midpoint * 2 ^ (exponent - 1)|
        ≤ 2 ^ (exponent - 30)) :
    twoTo 29 * (gridRatio exponent).gap ⟨midpoint, point⟩
      ≤ (gridRatio exponent).denominator := by
  have units : (2 : ℚ) ^ (exponent - 30) * 2 ^ (1 - exponent) * 2 ^ 29 = 1 := by
    rw [← zpow_natCast, ← zpow_add₀ (by norm_num), ← zpow_add₀ (by norm_num)]
    norm_num
  have denominator := gridRatio_denominator_pos exponent
  have scaled :
      (2 ^ 29 * (gridRatio exponent).gap ⟨midpoint, point⟩ : ℚ)
        ≤ (gridRatio exponent).denominator := by
    calc (2 ^ 29 * (gridRatio exponent).gap ⟨midpoint, point⟩ : ℚ)
        = 2 ^ 29
            * (|(point : ℚ) * 10 ^ coarseGrid exponent
                - midpoint * 2 ^ (exponent - 1)|
              * (2 ^ (1 - exponent) * (gridRatio exponent).denominator)) := by
          rw [gap_eq_distance]
      _ ≤ 2 ^ 29
            * (2 ^ (exponent - 30)
              * (2 ^ (1 - exponent) * (gridRatio exponent).denominator)) := by
          gcongr
      _ = (gridRatio exponent).denominator := by
          linear_combination (gridRatio exponent).denominator * units
  exact_mod_cast scaled

theorem eq_of_gap_eq_zero
    {midpoint point : Nat}
    (zero : (gridRatio exponent).gap ⟨midpoint, point⟩ = 0) :
    (point : ℚ) * 10 ^ coarseGrid exponent = midpoint * 2 ^ (exponent - 1) := by
  have scale :
      (0 : ℚ) < 2 ^ (1 - exponent) * (gridRatio exponent).denominator :=
    mul_pos (by positivity) (gridRatio_denominator_pos exponent)
  have distance := gap_eq_distance exponent midpoint point
  rw [zero, Nat.cast_zero, eq_comm, mul_eq_zero, or_iff_left scale.ne',
    abs_eq_zero, sub_eq_zero] at distance
  exact distance

variable {exponent}

/-- A grid that is about as coarse as a power of two is not a finer one. -/
theorem Separated.coarseGrid_le
    {bracket : Bracket}
    (checked : Separated exponent bracket)
    {power : Int}
    (coarse : (2 ^ 29 - 1) * (2 : ℚ) ^ exponent ≤ 2 ^ 29 * 10 ^ power) :
    coarseGrid exponent ≤ power := by
  by_contra finer
  have step : (10 : ℚ) ^ power ≤ 10 ^ (coarseGrid exponent - 1) :=
    zpow_le_zpow_right₀ (by norm_num) (by omega)
  have compared :
      2 ^ 29 * (10 : ℚ) ^ (coarseGrid exponent - 1)
        < (2 ^ 29 - 1) * 2 ^ exponent := by
    rw [zpow_eq_div 10 (by norm_num), zpow_eq_div 2 (by norm_num),
      ← mul_div_assoc, ← mul_div_assoc, div_lt_div_iff₀ (by positivity)
      (by positivity)]
    have finer :
        2 ^ 29 * 10 ^ (coarseGrid exponent - 1).toNat * 2 ^ (-exponent).toNat
          < 536870911 * 2 ^ exponent.toNat
            * 10 ^ (-(coarseGrid exponent - 1)).toNat :=
      checked.finer
    have fraction : (2 : ℚ) ^ 29 - 1 = (536870911 : Nat) := by norm_num
    rw [fraction]
    exact_mod_cast finer
  linarith

/-- A multiple of a fraction that keeps its distance is not close to a ratio. -/
theorem KeepsDistance.of_times
    {fraction : Fraction}
    (keeps : KeepsDistance exponent fraction)
    {count midpoint point : Nat}
    (positive : 0 < count)
    (small : midpoint < 2 ^ 25)
    (multiple : (⟨midpoint, point⟩ : Fraction) = fraction.times count)
    (close :
      twoTo 29 * (gridRatio exponent).gap ⟨midpoint, point⟩
        ≤ (gridRatio exponent).denominator) :
    (gridRatio exponent).gap ⟨midpoint, point⟩ = 0
      ∨ exponent = closeExponent ∧ midpoint = closePair.numerator := by
  have gap := congrArg (gridRatio exponent).gap multiple
  rw [Fraction.gap_times] at gap
  rcases keeps with zero | far | ⟨exponentEq, rfl⟩
  · left
    rw [gap, zero, Nat.mul_zero]
  · have once :
        (gridRatio exponent).gap fraction
          ≤ (gridRatio exponent).gap ⟨midpoint, point⟩ := by
      rw [gap]
      exact Nat.le_mul_of_pos_left _ positive
    have scaled := Nat.mul_le_mul_left (twoTo 29) once
    omega
  · right
    refine ⟨exponentEq, ?_⟩
    have numerator := congrArg Fraction.numerator multiple
    simp only [Fraction.times, closePair] at numerator ⊢
    have single : count = 1 := by omega
    rw [numerator, single, Nat.one_mul]

/--
A decimal on a grid that is about as coarse as a power of two, and close to a
midpoint, is the midpoint, but for one pair.
-/
theorem decimal_eq_midpoint
    (least : -149 ≤ exponent)
    (greatest : exponent ≤ 104)
    {power : Int}
    {point midpoint : Nat}
    (coarse : (2 ^ 29 - 1) * (2 : ℚ) ^ exponent ≤ 2 ^ 29 * 10 ^ power)
    (positive : 0 < midpoint)
    (small : midpoint < 2 ^ 25)
    (close :
      |(point : ℚ) * 10 ^ power - midpoint * 2 ^ (exponent - 1)|
        ≤ 2 ^ (exponent - 30)) :
    (point : ℚ) * 10 ^ power = midpoint * 2 ^ (exponent - 1)
      ∨ exponent = closeExponent ∧ midpoint = closePair.numerator := by
  have checked := separated least greatest
  have notFiner := checked.coarseGrid_le coarse
  obtain ⟨places, power_eq⟩ :
      ∃ places : Nat, power = coarseGrid exponent + places :=
    ⟨(power - coarseGrid exponent).toNat, by omega⟩
  have onGrid :
      (point : ℚ) * 10 ^ power =
        (point * 10 ^ places : Nat) * 10 ^ coarseGrid exponent := by
    rw [power_eq, zpow_add₀ (by norm_num), zpow_natCast]
    push_cast
    ring
  rw [onGrid] at close ⊢
  have gap := gap_le_of_close exponent close
  have outcome :
      (gridRatio exponent).gap ⟨midpoint, point * 10 ^ places⟩ = 0
        ∨ exponent = closeExponent ∧ midpoint = closePair.numerator := by
    have ways :=
      checked.encloses.gap_or_times
        (show 0 < (⟨midpoint, point * 10 ^ places⟩ : Fraction).numerator
          from positive)
        (small.trans_le checked.reaches)
    rcases ways with both | ⟨count, some⟩ | ⟨count, some⟩
    · have scaled := Nat.mul_le_mul_left (twoTo 29) both
      have apart := checked.apart
      omega
    · exact checked.lower.of_times some.1 small some.2 gap
    · exact checked.upper.of_times some.1 small some.2 gap
  exact outcome.imp_left (eq_of_gap_eq_zero exponent)

end Distances

end SyntheticTable
