import Mathlib.Algebra.Order.Field.Power
import Mathlib.Data.Rat.Cast.Order
import Mathlib.Tactic.FieldSimp
import Mathlib.Tactic.Linarith
import Mathlib.Tactic.NormNum
import Mathlib.Tactic.Positivity
import Mathlib.Tactic.Qify
import Mathlib.Tactic.Ring
import SyntheticTable.Number.Layout

/-!
# How great written numbers are

Quantities are compared as rational numbers here.  The shortest decimal of a
number is at most twice the number, because the grid on which it is found is no
coarser than the number itself.  A quantity that stays below the greatest
exponent of a format rounds to a finite number of the format.  So the text of a
finite number of 32 bits is never read as an infinite number of 64.
-/

namespace SyntheticTable

/-! ## Powers with an exponent of either sign -/

/-- A power of an exponent that is split at zero. -/
theorem zpow_eq_div (base : ℚ) (nonzero : base ≠ 0) (exponent : Int) :
    base ^ exponent = base ^ exponent.toNat / base ^ (-exponent).toNat := by
  rw [← zpow_natCast, ← zpow_natCast, ← zpow_sub₀ nonzero]
  congr 1
  omega

theorem two_zpow_eq_two_mul (exponent : Int) :
    (2 : ℚ) ^ exponent = 2 * 2 ^ (exponent - 1) := by
  rw [zpow_sub₀ (by norm_num)]
  ring

theorem two_zpow_eq_four_mul (exponent : Int) :
    (2 : ℚ) ^ exponent = 4 * 2 ^ (exponent - 2) := by
  rw [zpow_sub₀ (by norm_num)]
  ring

theorem two_zpow_half_eq (exponent : Int) :
    (2 : ℚ) ^ (exponent - 1) = 2 * 2 ^ (exponent - 2) := by
  linarith only [two_zpow_eq_two_mul exponent, two_zpow_eq_four_mul exponent]

/-- The denominator of a split power is moved to the other side. -/
theorem mul_pow_le_mul_pow_iff
    (base : Nat)
    (positive : 0 < base)
    (exponent : Int)
    (left right : Nat) :
    left * base ^ exponent.toNat ≤ right * base ^ (-exponent).toNat
      ↔ (left : ℚ) * (base : ℚ) ^ exponent ≤ right := by
  have basePositive : (0 : ℚ) < base := by exact_mod_cast positive
  have below : (0 : ℚ) < (base : ℚ) ^ (-exponent).toNat := by positivity
  rw [zpow_eq_div _ basePositive.ne', ← mul_div_assoc, div_le_iff₀ below]
  exact_mod_cast Iff.rfl

/-! ## Leading digits -/

/--
An exponent estimated from the lengths of two numbers is exact or one too
great, and comparing once tells which.
-/
theorem leadingExponent_spec
    (base : Nat)
    {numerator denominator : Nat}
    (greater : 1 < base)
    {above below : Nat}
    (aboveLow : base ^ above ≤ numerator)
    (aboveHigh : numerator < base ^ (above + 1))
    (belowLow : base ^ below ≤ denominator)
    (belowHigh : denominator < base ^ (below + 1))
    {estimate exponent : Int}
    (estimated : estimate = above - below)
    (chosen :
      exponent =
        if denominator * base ^ estimate.toNat
            ≤ numerator * base ^ (-estimate).toNat
        then estimate else estimate - 1) :
    (base : ℚ) ^ exponent * denominator ≤ numerator
      ∧ (numerator : ℚ) < base ^ (exponent + 1) * denominator := by
  have positive : (0 : ℚ) < base := by exact_mod_cast (by omega : 0 < base)
  have split (power : Int) (step : Nat) :
      (base : ℚ) ^ (power + step) = base ^ power * base ^ step := by
    rw [zpow_add₀ positive.ne', zpow_natCast]
  qify at aboveLow aboveHigh belowLow belowHigh
  have denominatorPositive : (0 : ℚ) < denominator :=
    lt_of_lt_of_le (by positivity) belowLow
  have notAbove : (numerator : ℚ) < base ^ (estimate + 1) * denominator := by
    calc (numerator : ℚ) < base ^ (above + 1) := aboveHigh
      _ = base ^ (estimate + 1) * base ^ below := by
          rw [← zpow_natCast, ← zpow_natCast, ← zpow_add₀ positive.ne']
          congr 1
          push_cast
          omega
      _ ≤ base ^ (estimate + 1) * denominator := by gcongr
  have notBelow : (base : ℚ) ^ (estimate - 1) * denominator ≤ numerator := by
    calc (base : ℚ) ^ (estimate - 1) * denominator
        ≤ base ^ (estimate - 1) * base ^ (below + 1) := by gcongr
      _ = base ^ above := by
          rw [← zpow_natCast, ← zpow_natCast, ← zpow_add₀ positive.ne']
          congr 1
          push_cast
          omega
      _ ≤ numerator := aboveLow
  have compared :=
    mul_pow_le_mul_pow_iff base (by omega) estimate denominator numerator
  by_cases reached :
      denominator * base ^ estimate.toNat ≤ numerator * base ^ (-estimate).toNat
  · rw [if_pos reached] at chosen
    rw [chosen, mul_comm]
    exact ⟨compared.mp reached, notAbove⟩
  · rw [if_neg reached] at chosen
    rw [chosen, sub_add_cancel, mul_comm (_ ^ estimate)]
    exact ⟨notBelow, not_le.mp (compared.not.mp reached)⟩

/-- The leading binary exponent of a quotient, as a pair of bounds. -/
theorem leadingBinaryExponent_spec
    {numerator denominator : Nat}
    (numeratorPositive : 0 < numerator)
    (denominatorPositive : 0 < denominator) :
    (2 : ℚ) ^ leadingBinaryExponent numerator denominator * denominator
        ≤ numerator
      ∧ (numerator : ℚ)
        < 2 ^ (leadingBinaryExponent numerator denominator + 1) * denominator := by
  have bounds :=
    leadingExponent_spec 2 (by omega)
      (Nat.log2_self_le numeratorPositive.ne') Nat.lt_log2_self
      (Nat.log2_self_le denominatorPositive.ne') Nat.lt_log2_self
      (rfl : (numerator.log2 : Int) - denominator.log2 = _) rfl
  exact bounds

/-- A positive number lies between the powers of ten that its length names. -/
theorem decimalDigits_length_bounds {number : Nat} (positive : 0 < number) :
    10 ^ ((decimalDigits number).length - 1) ≤ number
      ∧ number < 10 ^ (decimalDigits number).length := by
  have lengthPositive : 0 < (decimalDigits number).length :=
    Nat.length_toDigits_pos
  constructor
  · by_contra less
    by_cases one : (decimalDigits number).length = 1
    · rw [one] at less
      omega
    · have shorter :=
        (Nat.length_toDigits_le_iff (b := 10) (by omega)
          (by omega : 0 < (decimalDigits number).length - 1)).mpr
          (not_le.mp less)
      rw [show Nat.toDigits 10 number = decimalDigits number from rfl] at shorter
      omega
  · exact (Nat.length_toDigits_le_iff (by omega) lengthPositive).mp (le_refl _)

/-! ## Shortest decimals -/

/-- The quantity of a decimal without its sign. -/
def Decimal.quantity (decimal : Decimal) : ℚ :=
  decimal.digits * 10 ^ decimal.exponent

namespace RoundingInterval

variable (interval : RoundingInterval)

/-- The grid of the leading digit is no coarser than the number. -/
theorem leadingExponent_le
    (valuePositive : 0 < interval.value)
    (denominatorPositive : 0 < interval.denominator) :
    (10 : ℚ) ^ interval.leadingExponent * interval.denominator
      ≤ interval.value := by
  have valueLength : 0 < (decimalDigits interval.value).length :=
    Nat.length_toDigits_pos
  have denominatorLength : 0 < (decimalDigits interval.denominator).length :=
    Nat.length_toDigits_pos
  have valueBounds := decimalDigits_length_bounds valuePositive
  have denominatorBounds := decimalDigits_length_bounds denominatorPositive
  rw [← Nat.sub_add_cancel valueLength] at valueBounds
  rw [← Nat.sub_add_cancel denominatorLength] at denominatorBounds
  have estimated :
      ((decimalDigits interval.value).length : Int)
          - (decimalDigits interval.denominator).length =
        ((decimalDigits interval.value).length - 1 : Nat)
          - ((decimalDigits interval.denominator).length - 1 : Nat) := by
    omega
  exact
    (leadingExponent_spec 10 (by omega) valueBounds.1 valueBounds.2
      denominatorBounds.1 denominatorBounds.2 estimated rfl).1

theorem pointBelow_le (power : Int) :
    (interval.pointBelow power : ℚ) * 10 ^ power * interval.denominator
      ≤ interval.value := by
  have rounded :
      interval.pointBelow power * interval.denominator * 10 ^ power.toNat
        ≤ interval.value * 10 ^ (-power).toNat := by
    rw [Nat.mul_assoc]
    exact Nat.div_mul_le_self _ _
  have compared :=
    (mul_pow_le_mul_pow_iff 10 (by omega) power _ _).mp rounded
  push_cast at compared
  linarith

/-- A point that is taken is one of the two around the number. -/
theorem pointOn?_le
    {tie : DecimalTie}
    {power : Int}
    {point : Nat}
    (taken : interval.pointOn? tie power = some point) :
    point ≤ interval.pointBelow power + 1 := by
  simp only [pointOn?] at taken
  grind

theorem firstPoint_le
    (tie : DecimalTie)
    (grids : Nat)
    (power : Int) :
    (interval.firstPoint tie grids power).2 ≤ power
      ∧ (interval.firstPoint tie grids power).1
        ≤ interval.pointBelow (interval.firstPoint tie grids power).2 + 1 := by
  induction grids generalizing power with
  | zero => exact ⟨le_refl _, Nat.le_succ _⟩
  | succ grids inductionHypothesis =>
      unfold firstPoint
      cases taken : interval.pointOn? tie power with
      | some point => exact ⟨le_refl _, interval.pointOn?_le taken⟩
      | none =>
          obtain ⟨finer, near⟩ := inductionHypothesis (power - 1)
          exact ⟨finer.trans (by omega), near⟩

/-- A decimal on a grid that is fine enough is at most twice the number. -/
theorem firstPoint_le_double
    (tie : DecimalTie)
    (grids : Nat)
    (valuePositive : 0 < interval.value)
    (denominatorPositive : 0 < interval.denominator) :
    let found := interval.firstPoint tie grids interval.leadingExponent
    (found.1 : ℚ) * 10 ^ found.2 * interval.denominator
      ≤ 2 * interval.value := by
  intro found
  obtain ⟨finer, near⟩ :=
    interval.firstPoint_le tie grids interval.leadingExponent
  have below := interval.pointBelow_le found.2
  have leading := interval.leadingExponent_le valuePositive denominatorPositive
  have nearCast : (found.1 : ℚ) ≤ interval.pointBelow found.2 + 1 := by
    exact_mod_cast near
  have step : (10 : ℚ) ^ found.2 ≤ 10 ^ interval.leadingExponent :=
    zpow_le_zpow_right₀ (by norm_num) finer
  calc (found.1 : ℚ) * 10 ^ found.2 * interval.denominator
      ≤ (interval.pointBelow found.2 + 1) * 10 ^ found.2
          * interval.denominator := by gcongr
    _ = interval.pointBelow found.2 * 10 ^ found.2 * interval.denominator
          + 10 ^ found.2 * interval.denominator := by ring
    _ ≤ interval.value
          + 10 ^ interval.leadingExponent * interval.denominator := by gcongr
    _ ≤ 2 * interval.value := by linarith

/-- The interval lies around the number that it is made for. -/
theorem value_of
    (format : BinaryFormat)
    (significand : Nat)
    (exponent : Int) :
    ((of format significand exponent).value : ℚ) =
      significand * 2 ^ exponent
        * (of format significand exponent).denominator := by
  rw [two_zpow_eq_four_mul exponent, zpow_eq_div 2 (by norm_num)]
  simp only [of, twoTo, Nat.pow_eq]
  push_cast
  field_simp

end RoundingInterval

theorem withoutTrailingZeros_quantity (digits : Nat) (exponent : Int) :
    ((withoutTrailingZeros digits exponent).1 : ℚ)
        * 10 ^ (withoutTrailingZeros digits exponent).2 =
      digits * 10 ^ exponent := by
  induction digits, exponent using withoutTrailingZeros.induct with
  | case1 digits exponent zeros inductionHypothesis =>
      have whole : ((digits / 10 : Nat) : ℚ) * 10 = digits := by
        exact_mod_cast Nat.div_mul_cancel (Nat.dvd_of_mod_eq_zero zeros.2)
      rw [withoutTrailingZeros, dif_pos zeros, inductionHypothesis,
        zpow_add_one₀ (by norm_num), ← whole]
      ring
  | case2 digits exponent zeros =>
      rw [withoutTrailingZeros, dif_neg zeros]

/-- The shortest decimal of a number is at most twice the number. -/
theorem shortestDecimal_quantity_le
    (format : BinaryFormat)
    (tie : DecimalTie)
    (negative : Bool)
    (significand : Nat)
    (exponent : Int) :
    (shortestDecimal format tie negative significand exponent).quantity
      ≤ 2 * (significand * 2 ^ exponent) := by
  unfold shortestDecimal
  by_cases zero : significand = 0
  · simp [zero, Decimal.quantity]
  · have around := RoundingInterval.value_of format significand exponent
    have denominatorPositive :
        0 < (RoundingInterval.of format significand exponent).denominator :=
      Nat.pow_pos (by omega)
    have denominatorCast :
        (0 : ℚ) < (RoundingInterval.of format significand exponent).denominator := by
      exact_mod_cast denominatorPositive
    have significandPositive : (0 : ℚ) < significand := by
      exact_mod_cast Nat.pos_of_ne_zero zero
    have valuePositive :
        0 < (RoundingInterval.of format significand exponent).value := by
      rw [← Nat.cast_pos (α := ℚ), around]
      positivity
    have double :=
      RoundingInterval.firstPoint_le_double _ tie format.decimalPrecision
        valuePositive denominatorPositive
    rw [around, ← mul_assoc, mul_le_mul_iff_left₀ denominatorCast] at double
    simpa [zero, Decimal.quantity, withoutTrailingZeros_quantity] using double

/-! ## Finite numbers of a format -/

/-- Rounding does not pass a whole number that the quotient stays below. -/
theorem roundedQuotient_le
    {numerator denominator bound : Nat}
    (below : numerator < bound * denominator) :
    roundedQuotient numerator denominator ≤ bound := by
  have quotient : numerator / denominator < bound :=
    Nat.div_lt_of_lt_mul (by rwa [Nat.mul_comm])
  simp only [roundedQuotient]
  split
  · omega
  · split
    · omega
    · have := Nat.mod_lt (numerator / denominator) (by omega : 2 > 0)
      omega

namespace BinaryFormat

variable (format : BinaryFormat)

theorem two_mul_half (wide : 0 < format.exponentBits) :
    twoTo format.exponentBits = 2 * twoTo (format.exponentBits - 1) := by
  obtain ⟨less, exponentBits⟩ : ∃ less, format.exponentBits = less + 1 :=
    ⟨format.exponentBits - 1, by omega⟩
  simp [exponentBits, twoTo, Nat.pow_succ, Nat.mul_comm]

theorem leastExponent_eq
    {half : Nat}
    (halfway : twoTo (format.exponentBits - 1) = half) :
    format.leastExponent = 2 - (half : Int) - format.fractionBits := by
  rw [leastExponent, halfway]

theorem infinity_pos (wide : 0 < format.exponentBits) :
    0 < format.infinity := by
  have double := format.two_mul_half wide
  have half : 0 < twoTo (format.exponentBits - 1) := Nat.pow_pos (by omega)
  exact Nat.mul_pos (by omega) (Nat.pow_pos (by omega))

theorem nearest_lt_infinity
    {numerator denominator bits : Nat}
    (denominatorPositive : 0 < denominator)
    (below : (numerator : ℚ) < 2 ^ bits * denominator)
    (fits : bits < twoTo (format.exponentBits - 1))
    (wide : 2 ≤ format.exponentBits) :
    format.nearest numerator denominator < format.infinity := by
  have four : 4 ≤ twoTo format.exponentBits :=
    Nat.pow_le_pow_right (n := 2) (by omega) wide
  have double := format.two_mul_half (by omega)
  generalize halfway : twoTo (format.exponentBits - 1) = half at fits double
  have least := format.leastExponent_eq halfway
  have unit : 0 < twoTo format.fractionBits := Nat.pow_pos (by omega)
  unfold nearest
  by_cases zero : numerator = 0
  · rw [if_pos zero]
    exact format.infinity_pos (by omega)
  · rw [if_neg zero]
    simp only
    obtain ⟨reached, notPassed⟩ :=
      leadingBinaryExponent_spec (Nat.pos_of_ne_zero zero) denominatorPositive
    have denominatorCast : (0 : ℚ) < denominator := by
      exact_mod_cast denominatorPositive
    have leadingBelow : leadingBinaryExponent numerator denominator < bits := by
      have powers :
          (2 : ℚ) ^ leadingBinaryExponent numerator denominator < 2 ^ (bits : Int) := by
        rw [zpow_natCast]
        exact lt_of_mul_lt_mul_right (reached.trans_lt below) denominatorCast.le
      exact (zpow_lt_zpow_iff_right₀ (by norm_num)).mp powers
    generalize leadingBinaryExponent numerator denominator = leading at *
    generalize exponentEq :
      max format.leastExponent (leading - format.fractionBits) = exponent
    have significand :
        roundedQuotient (numerator * twoTo (-exponent).toNat)
            (denominator * twoTo exponent.toNat)
          ≤ 2 * twoTo format.fractionBits := by
      apply roundedQuotient_le
      rw [← Nat.mul_assoc, ← not_le]
      refine (mul_pow_le_mul_pow_iff 2 (by omega) exponent _ _).not.mpr ?_
      rw [not_le]
      calc (numerator : ℚ) < 2 ^ (leading + 1) * denominator := notPassed
        _ ≤ 2 ^ (1 + (format.fractionBits : Int) + exponent) * denominator := by
            have step :
                leading + 1 ≤ 1 + (format.fractionBits : Int) + exponent := by
              omega
            have powers := zpow_le_zpow_right₀ (by norm_num : (1 : ℚ) ≤ 2) step
            gcongr
        _ = ((2 * twoTo format.fractionBits * denominator : Nat) : ℚ)
              * ((2 : Nat) : ℚ) ^ exponent := by
            rw [zpow_add₀ (by norm_num), zpow_one_add₀ (by norm_num),
              zpow_natCast]
            simp only [twoTo, Nat.pow_eq]
            push_cast
            ring
    have steps :
        (exponent - format.leastExponent).toNat + 2
          < twoTo format.exponentBits - 1 := by
      omega
    calc min format.infinity _
        ≤ (exponent - format.leastExponent).toNat * twoTo format.fractionBits
            + 2 * twoTo format.fractionBits :=
          (min_le_right _ _).trans (Nat.add_le_add_left significand _)
      _ = ((exponent - format.leastExponent).toNat + 2)
            * twoTo format.fractionBits := by ring
      _ < format.infinity := Nat.mul_lt_mul_of_pos_right steps unit

theorem infinity_le_signBit : format.infinity ≤ format.signBit := by
  rw [infinity, signBit, twoTo, twoTo, twoTo, Nat.pow_eq, Nat.pow_eq,
    Nat.pow_eq, Nat.pow_add]
  exact Nat.mul_le_mul_right _ (Nat.sub_le _ _)

/-- A sign bit leaves a magnitude that does not reach it. -/
theorem withSign_mod
    {magnitude : Nat}
    (below : magnitude < format.signBit)
    (negative : Bool) :
    format.withSign negative magnitude % format.signBit = magnitude := by
  cases negative with
  | true => simp [withSign, Nat.mod_eq_of_lt below]
  | false => simp [withSign, Nat.mod_eq_of_lt below]

theorem withSign_lt
    {magnitude : Nat}
    (below : magnitude < format.signBit)
    (negative : Bool) :
    format.withSign negative magnitude < 2 * format.signBit := by
  unfold withSign
  split <;> omega

/-- A pattern below infinity stands for a finite number, with either sign. -/
theorem magnitudeOf_withSign
    {magnitude : Nat}
    (below : magnitude < format.infinity)
    (negative : Bool) :
    ∃ significand exponent,
      format.magnitudeOf (format.withSign negative magnitude) =
        .finite significand exponent := by
  have unsigned :=
    format.withSign_mod (below.trans_le format.infinity_le_signBit) negative
  have field :
      magnitude / twoTo format.fractionBits < twoTo format.exponentBits - 1 :=
    Nat.div_lt_of_lt_mul (by rwa [Nat.mul_comm])
  simp only [magnitudeOf, unsigned]
  by_cases zero : magnitude / twoTo format.fractionBits = 0
  · exact ⟨_, _, if_pos zero⟩
  · rw [if_neg zero, if_pos field]
    exact ⟨_, _, rfl⟩

/-- The finite numbers of a format lie below its greatest power of two. -/
theorem magnitudeOf_lt
    (wide : 2 ≤ format.exponentBits)
    {pattern significand : Nat}
    {exponent : Int}
    (finite : format.magnitudeOf pattern = .finite significand exponent) :
    (significand : ℚ) * 2 ^ exponent
      < 2 ^ twoTo (format.exponentBits - 1) := by
  have double := format.two_mul_half (by omega)
  have atLeastTwo : 2 ≤ twoTo (format.exponentBits - 1) :=
    Nat.pow_le_pow_right (n := 2) (i := 1) (by omega) (by omega)
  generalize halfway : twoTo (format.exponentBits - 1) = half at *
  have least := format.leastExponent_eq halfway
  have unit : 0 < twoTo format.fractionBits := Nat.pow_pos (by omega)
  have fraction :=
    Nat.mod_lt (pattern % format.signBit) unit
  simp only [magnitudeOf] at finite
  generalize pattern % format.signBit / twoTo format.fractionBits = field
    at finite
  have bounds :
      significand < 2 * twoTo format.fractionBits
        ∧ exponent + format.fractionBits + 1 ≤ half := by
    split at finite
    · obtain ⟨rfl, rfl⟩ := Magnitude.finite.inj finite
      omega
    · split at finite
      · obtain ⟨rfl, rfl⟩ := Magnitude.finite.inj finite
        omega
      · split at finite <;> cases finite
  have significandCast : (significand : ℚ) < 2 * 2 ^ format.fractionBits := by
    have := bounds.1
    simp only [twoTo, Nat.pow_eq] at this
    exact_mod_cast this
  calc (significand : ℚ) * 2 ^ exponent
      < 2 * 2 ^ format.fractionBits * 2 ^ exponent := by gcongr
    _ = 2 ^ (exponent + format.fractionBits + 1) := by
        rw [zpow_add_one₀ (by norm_num), zpow_add₀ (by norm_num), zpow_natCast]
        ring
    _ ≤ 2 ^ (half : Int) := zpow_le_zpow_right₀ (by norm_num) bounds.2
    _ = 2 ^ half := zpow_natCast _ _

end BinaryFormat

/-! ## Rounded decimals -/

namespace Decimal

theorem leading_lt
    {decimal : Decimal}
    (positive : 0 < decimal.digits)
    {bits : Nat}
    (below : decimal.quantity < 2 ^ bits) :
    ((decimalDigits decimal.digits).length : Int) + decimal.exponent - 1
      < bits := by
  have leading := (decimalDigits_length_bounds positive).1
  have lengthPositive : 0 < (decimalDigits decimal.digits).length :=
    Nat.length_toDigits_pos
  have powers :
      (10 : ℚ) ^ (((decimalDigits decimal.digits).length : Int)
        + decimal.exponent - 1) < 10 ^ (bits : Int) := by
    calc (10 : ℚ) ^ (((decimalDigits decimal.digits).length : Int)
          + decimal.exponent - 1)
        = 10 ^ ((decimalDigits decimal.digits).length - 1)
            * 10 ^ decimal.exponent := by
          rw [← zpow_natCast, ← zpow_add₀ (by norm_num)]
          congr 1
          omega
      _ ≤ decimal.digits * 10 ^ decimal.exponent := by
          gcongr
          exact_mod_cast leading
      _ < 2 ^ bits := below
      _ ≤ 10 ^ (bits : Int) := by
          rw [zpow_natCast]
          gcongr
          norm_num
  exact (zpow_lt_zpow_iff_right₀ (by norm_num)).mp powers

theorem lt_leading
    {decimal : Decimal}
    (positive : 0 < decimal.digits)
    {bits : Nat}
    (above : (2 : ℚ) ^ (-(bits : Int)) ≤ decimal.quantity) :
    -(bits : Int)
      < ((decimalDigits decimal.digits).length : Int) + decimal.exponent := by
  have leading := (decimalDigits_length_bounds positive).2
  have powers :
      (10 : ℚ) ^ (-(bits : Int))
        < 10 ^ (((decimalDigits decimal.digits).length : Int)
          + decimal.exponent) := by
    calc (10 : ℚ) ^ (-(bits : Int)) ≤ 2 ^ (-(bits : Int)) := by
          rw [zpow_neg, zpow_neg, zpow_natCast, zpow_natCast]
          gcongr
          norm_num
      _ ≤ decimal.digits * 10 ^ decimal.exponent := above
      _ < 10 ^ (decimalDigits decimal.digits).length
            * 10 ^ decimal.exponent := by
          gcongr
          exact_mod_cast leading
      _ = _ := by rw [← zpow_natCast, ← zpow_add₀ (by norm_num)]
  exact (zpow_lt_zpow_iff_right₀ (by norm_num)).mp powers

theorem quotient_eq (decimal : Decimal) :
    ((decimal.digits * tenTo decimal.exponent.toNat : Nat) : ℚ) =
      decimal.quantity * (tenTo (-decimal.exponent).toNat : Nat) := by
  have positive : (0 : ℚ) < 10 ^ (-decimal.exponent).toNat := by positivity
  rw [quantity, zpow_eq_div 10 (by norm_num), ← mul_div_assoc]
  simp only [tenTo, Nat.pow_eq]
  push_cast
  rw [div_mul_cancel₀ _ positive.ne']

/-- A decimal below the greatest exponent of a format rounds to a finite one. -/
theorem nearest_finite
    (decimal : Decimal)
    (format : BinaryFormat)
    {bits : Nat}
    (below : decimal.quantity < 2 ^ bits)
    (fits : bits < twoTo (format.exponentBits - 1))
    (wide : 2 ≤ format.exponentBits) :
    ∃ magnitude,
      magnitude < format.infinity
        ∧ decimal.nearest format =
          format.withSign decimal.negative magnitude := by
  unfold nearest
  simp only
  split
  · exact ⟨0, format.infinity_pos (by omega), rfl⟩
  · rename_i notTiny
    have order := leading_lt (by omega : 0 < decimal.digits) below
    rw [if_neg (by omega)]
    have denominatorPositive : 0 < tenTo (-decimal.exponent).toNat :=
      Nat.pow_pos (by omega)
    have denominatorCast : (0 : ℚ) < tenTo (-decimal.exponent).toNat := by
      exact_mod_cast denominatorPositive
    refine ⟨_, format.nearest_lt_infinity denominatorPositive ?_ fits wide, rfl⟩
    rw [quotient_eq]
    exact mul_lt_mul_of_pos_right below denominatorCast

theorem toDouble_bits
    {decimal : Decimal}
    {magnitude : Nat}
    (nearest :
      decimal.nearest .double =
        BinaryFormat.double.withSign decimal.negative magnitude)
    (below : magnitude < BinaryFormat.double.signBit) :
    decimal.toDouble.bits.toNat =
      BinaryFormat.double.withSign decimal.negative magnitude := by
  have withinBits :
      BinaryFormat.double.withSign decimal.negative magnitude < 2 ^ 64 :=
    BinaryFormat.double.withSign_lt below decimal.negative
  rw [toDouble, nearest]
  exact UInt64.toNat_ofNat_of_lt withinBits

end Decimal

namespace Single

/-- The decimal under which a finite number is written lies below `2 ^ 129`. -/
theorem shortestDecimal_lt
    {number : Single}
    {significand : Nat}
    {exponent : Int}
    (finite : number.magnitude = .finite significand exponent)
    (tie : DecimalTie)
    (negative : Bool) :
    (shortestDecimal .single tie negative significand exponent).quantity
      < 2 ^ 129 := by
  have bound := BinaryFormat.single.magnitudeOf_lt (by decide) finite
  calc (shortestDecimal .single tie negative significand exponent).quantity
      ≤ 2 * (significand * 2 ^ exponent) :=
        shortestDecimal_quantity_le _ _ _ _ _
    _ < 2 * 2 ^ twoTo (BinaryFormat.single.exponentBits - 1) := by gcongr
    _ = 2 ^ 129 := by norm_num [BinaryFormat.single, twoTo]

end Single

namespace Double

/-- A decimal that is not too great is a finite number of 64 bits. -/
theorem magnitude_toDouble
    {decimal : Decimal}
    {bits : Nat}
    (below : decimal.quantity < 2 ^ bits)
    (fits : bits < 1024) :
    ∃ significand exponent,
      decimal.toDouble.magnitude = .finite significand exponent := by
  obtain ⟨magnitude, finite, rounded⟩ :=
    decimal.nearest_finite .double below (by simpa [BinaryFormat.double] using fits)
      (by decide)
  have belowSign := finite.trans_le BinaryFormat.double.infinity_le_signBit
  rw [Double.magnitude, Decimal.toDouble_bits rounded belowSign]
  exact BinaryFormat.double.magnitudeOf_withSign finite decimal.negative

end Double

end SyntheticTable
