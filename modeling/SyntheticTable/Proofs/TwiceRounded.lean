import SyntheticTable.Proofs.MidpointGaps
import SyntheticTable.Proofs.ShortestDecimals

/-!
# Decimals that are rounded twice

A number of 32 bits is written as its shortest decimal, and read as a number of
64 bits that is then rounded to 32.  The first rounding may move the decimal to
an end of the interval of the number, but not past it.  An end is out of reach
for an even significand, which has both ends in its interval, and for an odd one
because a decimal on so coarse a grid keeps a distance from the midpoints.  Only
one number has a decimal that comes too close to an end.
-/

namespace SyntheticTable

open BinaryFormat (single double)

/-! ## The first rounding -/

section FirstRounding

variable
    {significand : Nat}
    {exponent : Int}
    {quantity : ℚ}

/-- The unit of a number of 64 bits in the interval of one of 32 is far finer. -/
theorem unit_le
    {unit : Int}
    (number : single.IsNumber significand exponent)
    (fits : significand < 2 ^ 24)
    (around : single.IsAround significand exponent quantity)
    (isUnit : double.IsUnit quantity unit) :
    unit ≤ exponent - 29 := by
  have least : single.leastExponent = -149 := by decide
  have leastDouble : double.leastExponent = -1074 := by decide
  have numberLeast := number.least
  rcases isUnit.reached with unitLeast | reached
  · omega
  · have quarter : (0 : ℚ) < 2 ^ (exponent - 2) := by positivity
    have fitsCast : (significand : ℚ) + 1 ≤ 2 ^ 24 := by exact_mod_cast fits
    have powers : (2 : ℚ) ^ (unit + double.fractionBits) < 2 ^ (exponent + 24) := by
      calc (2 : ℚ) ^ (unit + double.fractionBits) ≤ quantity := reached
        _ ≤ (4 * significand + 2) * 2 ^ (exponent - 2) := around.high
        _ < 2 ^ 26 * 2 ^ (exponent - 2) := by
            refine mul_lt_mul_of_pos_right ?_ quarter
            linarith
        _ = 2 ^ (exponent + 24) := by
            rw [← zpow_natCast, ← zpow_add₀ (by norm_num)]
            congr 1
            push_cast
            ring
    have bits : ((double.fractionBits : Nat) : Int) = 52 := rfl
    have less := (zpow_lt_zpow_iff_right₀ (by norm_num)).mp powers
    omega

/-- Rounding in a finer unit does not pass a multiple of a coarser one. -/
theorem rounded_between
    {found : Nat}
    {unit coarser : Int}
    (rounded : BinaryFormat.IsRounded quantity found unit)
    (finer : unit ≤ coarser)
    (whole : Nat) :
    (quantity ≤ whole * 2 ^ coarser →
        (found : ℚ) * 2 ^ unit ≤ whole * 2 ^ coarser)
      ∧ (whole * 2 ^ coarser ≤ quantity →
        (whole : ℚ) * 2 ^ coarser ≤ found * 2 ^ unit) := by
  obtain ⟨steps, coarser_eq⟩ : ∃ steps : Nat, coarser = unit + steps :=
    ⟨(coarser - unit).toNat, by omega⟩
  have power : (0 : ℚ) < 2 ^ unit := by positivity
  have inUnits :
      (whole : ℚ) * 2 ^ coarser = (whole * 2 ^ steps : Nat) * 2 ^ unit := by
    rw [coarser_eq, zpow_add₀ (by norm_num), zpow_natCast]
    push_cast
    ring
  rw [inUnits]
  constructor
  · intro above
    have notAbove := rounded.notAbove _ above
    exact mul_le_mul_of_nonneg_right (by exact_mod_cast notAbove) power.le
  · intro below
    have notBelow := rounded.notBelow _ below
    exact mul_le_mul_of_nonneg_right (by exact_mod_cast notBelow) power.le

/--
A decimal that is rounded to a midpoint next to a number, and is the nearest one
of its grid to the number, is the midpoint, but for one pair.
-/
theorem eq_midpoint_of_rounded
    (least : -149 ≤ exponent)
    (greatest : exponent ≤ 104)
    {point midpoint : Nat}
    {power unit : Int}
    (finer : unit ≤ exponent - 29)
    (beside :
      |(midpoint : ℚ) * 2 ^ (exponent - 1) - significand * 2 ^ exponent|
        = 2 ^ (exponent - 1))
    (positive : 0 < midpoint)
    (small : midpoint < 2 ^ 25)
    (near :
      |(point : ℚ) * 10 ^ power - significand * 2 ^ exponent| ≤ 10 ^ power / 2)
    (close :
      |(midpoint : ℚ) * 2 ^ (exponent - 1) - point * 10 ^ power|
        ≤ 2 ^ (unit - 1)) :
    (point : ℚ) * 10 ^ power = midpoint * 2 ^ (exponent - 1)
      ∨ exponent = closeExponent ∧ midpoint = closePair.numerator := by
  have closeUnit :
      |(midpoint : ℚ) * 2 ^ (exponent - 1) - point * 10 ^ power|
        ≤ 2 ^ (exponent - 30) :=
    close.trans (zpow_le_zpow_right₀ (by norm_num) (by omega))
  have half := two_zpow_eq_two_mul exponent
  have fine : (2 : ℚ) ^ exponent = 2 ^ 30 * 2 ^ (exponent - 30) := by
    rw [← zpow_natCast, ← zpow_add₀ (by norm_num)]
    congr 1
    push_cast
    omega
  have coarse : (2 ^ 29 - 1) * (2 : ℚ) ^ exponent ≤ 2 ^ 29 * 10 ^ power := by
    have apart :=
      abs_sub_le ((midpoint : ℚ) * 2 ^ (exponent - 1)) (point * 10 ^ power)
        (significand * 2 ^ exponent)
    rw [beside] at apart
    linarith
  refine decimal_eq_midpoint least greatest coarse positive small ?_
  rwa [abs_sub_comm]

theorem not_isNarrow_of_odd (odd : significand % 2 = 1) :
    ¬single.IsNarrow significand exponent := by
  rintro ⟨start, -⟩
  rw [start] at odd
  exact absurd odd (by decide)

theorem ends_of_odd (exponent : Int) (odd : significand % 2 = 1) :
    single.lowEnd significand exponent
        = (2 * significand - 1 : Nat) * 2 ^ (exponent - 1)
      ∧ BinaryFormat.highEnd significand exponent
        = (2 * significand + 1 : Nat) * 2 ^ (exponent - 1) := by
  rw [BinaryFormat.lowEnd, if_neg (not_isNarrow_of_odd odd),
    BinaryFormat.highEnd, two_zpow_half_eq, Nat.cast_sub (by omega)]
  push_cast
  constructor <;> ring

/-- A midpoint lies on one side of a number. -/
def IsBeside (midpoint significand : Nat) : Prop :=
  midpoint + 1 = 2 * significand ∨ midpoint = 2 * significand + 1

/-- A midpoint beside a number is half a unit away. -/
theorem IsBeside.distance
    {midpoint : Nat}
    (beside : IsBeside midpoint significand)
    (exponent : Int) :
    |(midpoint : ℚ) * 2 ^ (exponent - 1) - significand * 2 ^ exponent|
      = 2 ^ (exponent - 1) := by
  have half : (0 : ℚ) < 2 ^ (exponent - 1) := by positivity
  have steps :
      (midpoint : ℚ) * 2 ^ (exponent - 1) - significand * 2 ^ exponent
        = (midpoint - 2 * significand) * 2 ^ (exponent - 1) := by
    rw [two_zpow_eq_two_mul exponent]
    ring
  have one : |(midpoint : ℚ) - 2 * significand| = 1 := by
    rcases beside with low | high
    · have lowCast : (midpoint : ℚ) + 1 = 2 * significand := by
        exact_mod_cast low
      rw [← lowCast]
      norm_num
    · rw [high]
      push_cast
      norm_num
  rw [steps, abs_mul, one, one_mul, abs_of_pos half]

/-- The number of which the decimal comes too close to an end. -/
def closeSignificand : Nat := 11420669

/-- The first rounding does not move a decimal to a midpoint beside the number. -/
theorem ne_midpoint_of_rounded
    (least : -149 ≤ exponent)
    (greatest : exponent ≤ 104)
    (odd : significand % 2 = 1)
    (fits : significand < 2 ^ 24)
    {point midpoint found : Nat}
    {power unit : Int}
    (finer : unit ≤ exponent - 29)
    (beside : IsBeside midpoint significand)
    (near :
      |(point : ℚ) * 10 ^ power - significand * 2 ^ exponent| ≤ 10 ^ power / 2)
    (rounded : BinaryFormat.IsRounded (point * 10 ^ power) found unit)
    (apart : (point : ℚ) * 10 ^ power ≠ midpoint * 2 ^ (exponent - 1))
    (regular :
      ¬(exponent = closeExponent ∧ significand = closeSignificand)) :
    (midpoint : ℚ) * 2 ^ (exponent - 1) ≠ found * 2 ^ unit := by
  intro reached
  have close := rounded.near
  rw [← reached] at close
  have distance := beside.distance exponent
  rcases beside with low | high
  · rcases eq_midpoint_of_rounded least greatest finer distance (by omega)
      (by omega) near close with same | ⟨-, pair⟩
    · exact apart same
    · simp only [closePair] at pair
      omega
  · rcases eq_midpoint_of_rounded least greatest finer distance (by omega)
      (by omega) near close with same | ⟨exponentEq, pair⟩
    · exact apart same
    · simp only [closePair] at pair
      exact regular ⟨exponentEq, by rw [closeSignificand]; omega⟩

/-- The first rounding keeps a shortest decimal in the interval of the number. -/
theorem around_of_rounded
    (number : single.IsNumber significand exponent)
    (positive : 0 < significand)
    (fits : significand < 2 ^ 24)
    (greatest : exponent ≤ 104)
    {point found : Nat}
    {power unit : Int}
    (around : single.IsAround significand exponent (point * 10 ^ power))
    (near :
      ¬single.IsNarrow significand exponent →
        |(point : ℚ) * 10 ^ power - significand * 2 ^ exponent|
          ≤ 10 ^ power / 2)
    (isUnit : double.IsUnit (point * 10 ^ power) unit)
    (rounded : BinaryFormat.IsRounded (point * 10 ^ power) found unit)
    (regular :
      ¬(exponent = closeExponent ∧ significand = closeSignificand)) :
    single.IsAround significand exponent (found * 2 ^ unit) := by
  have finer := unit_le number fits around isUnit
  have lowKept : single.lowEnd significand exponent ≤ found * 2 ^ unit := by
    have low := around.low
    rw [single.lowEnd_eq positive] at low ⊢
    exact (rounded_between rounded (by omega) _).2 low
  have highKept :
      (found : ℚ) * 2 ^ unit ≤ BinaryFormat.highEnd significand exponent := by
    have high := around.high
    rw [BinaryFormat.highEnd_eq] at high ⊢
    exact (rounded_between rounded (by omega) _).1 high
  refine ⟨lowKept, highKept, ?_⟩
  rcases around.tie with even | ⟨lowStrict, highStrict⟩
  · exact .inl even
  rcases Nat.mod_two_eq_zero_or_one significand with even | odd
  · exact .inl even
  right
  have nearest := near (not_isNarrow_of_odd odd)
  obtain ⟨lowMidpoint, highMidpoint⟩ := ends_of_odd exponent odd
  constructor
  · refine lt_of_le_of_ne lowKept ?_
    rw [lowMidpoint] at lowStrict ⊢
    exact ne_midpoint_of_rounded number.least greatest odd fits finer
      (.inl (by omega)) nearest rounded lowStrict.ne' regular
  · refine lt_of_le_of_ne highKept (Ne.symm ?_)
    rw [highMidpoint] at highStrict ⊢
    exact ne_midpoint_of_rounded number.least greatest odd fits finer
      (.inr rfl) nearest rounded highStrict.ne regular

end FirstRounding

/-! ## Patterns -/

namespace BinaryFormat

variable (format : BinaryFormat)

theorem isNegative_withSign
    {magnitude : Nat}
    (below : magnitude < format.signBit)
    (negative : Bool) :
    format.isNegative (format.withSign negative magnitude) = negative := by
  cases negative with
  | true => simp [isNegative, withSign]
  | false => simpa [isNegative, withSign] using below

theorem withSign_isNegative
    {pattern : Nat}
    (fits : pattern < 2 * format.signBit) :
    format.withSign (format.isNegative pattern) (pattern % format.signBit)
      = pattern := by
  by_cases negative : format.signBit ≤ pattern
  · have once : pattern - format.signBit < format.signBit := by omega
    simp only [isNegative, negative, decide_true, withSign, if_true]
    rw [Nat.mod_eq_sub_mod negative, Nat.mod_eq_of_lt once]
    omega
  · simp only [isNegative, negative, decide_false, withSign, if_false,
      Bool.false_eq_true]
    exact Nat.mod_eq_of_lt (by omega)

end BinaryFormat

/-! ## Decimals as numbers of 64 bits -/

namespace Decimal

theorem nearest_double
    {decimal : Decimal}
    (low : (2 : ℚ) ^ (-150 : Int) ≤ decimal.quantity)
    (high : decimal.quantity < 2 ^ 129) :
    0 < decimal.digits
      ∧ decimal.nearest double =
        double.withSign decimal.negative
          (double.nearest (decimal.digits * tenTo decimal.exponent.toNat)
            (tenTo (-decimal.exponent).toNat)) := by
  have positive : 0 < decimal.digits := by
    refine Nat.pos_of_ne_zero fun zero => ?_
    rw [quantity, zero, Nat.cast_zero, zero_mul] at low
    exact absurd low (not_le.mpr (by positivity))
  have notGreat := leading_lt positive high
  have notTiny :
      -150 < ((decimalDigits decimal.digits).length : Int) + decimal.exponent :=
    lt_leading positive low
  have least : double.leastExponent = -1074 := by decide
  have half : twoTo (double.exponentBits - 1) = 1024 := by decide
  refine ⟨positive, ?_⟩
  rw [nearest, if_neg (by omega), if_neg (by omega)]

/-- A decimal in reach is read as a number of 64 bits that is near. -/
theorem toDouble_isRounded
    {decimal : Decimal}
    (low : (2 : ℚ) ^ (-150 : Int) ≤ decimal.quantity)
    (high : decimal.quantity < 2 ^ 129) :
    ∃ found unit significand exponent,
      double.IsUnit decimal.quantity unit
        ∧ BinaryFormat.IsRounded decimal.quantity found unit
        ∧ decimal.toDouble.isNegative = decimal.negative
        ∧ decimal.toDouble.magnitude = .finite significand exponent
        ∧ (significand : ℚ) * 2 ^ exponent = found * 2 ^ unit := by
  obtain ⟨digits, nearest⟩ := nearest_double low high
  have denominatorPositive : 0 < tenTo (-decimal.exponent).toNat :=
    Nat.pow_pos (by omega)
  have numeratorPositive : 0 < decimal.digits * tenTo decimal.exponent.toNat :=
    Nat.mul_pos digits (Nat.pow_pos (by omega))
  obtain ⟨found, unit, isUnit, number, rounded, place⟩ :=
    double.nearest_isRounded numeratorPositive denominatorPositive
      decimal.quotient_eq
  have denominatorCast : (0 : ℚ) < (tenTo (-decimal.exponent).toNat : Nat) := by
    exact_mod_cast denominatorPositive
  have inReach :
      ((decimal.digits * tenTo decimal.exponent.toNat : Nat) : ℚ)
        < 2 ^ 129 * (tenTo (-decimal.exponent).toNat : Nat) := by
    rw [decimal.quotient_eq]
    exact mul_lt_mul_of_pos_right high denominatorCast
  have finite :=
    double.nearest_lt_infinity denominatorPositive inReach (by decide)
      (by decide)
  have below : double.place found unit < double.infinity := by
    rw [place] at finite
    omega
  rw [min_eq_right below.le] at place
  have belowSign := below.trans_le double.infinity_le_signBit
  rw [place] at nearest
  have bits := toDouble_bits nearest belowSign
  obtain ⟨significand, exponent, magnitude, same⟩ :=
    double.magnitudeOf_place number below decimal.negative
  refine ⟨found, unit, significand, exponent, isUnit, rounded, ?_, ?_, same⟩
  · rw [Double.isNegative, bits]
    exact double.isNegative_withSign belowSign decimal.negative
  · rw [Double.magnitude, bits]
    exact magnitude

end Decimal

/-! ## The second rounding -/

theorem half_le_of_around
    {significand : Nat}
    {exponent : Int}
    {quantity : ℚ}
    (positive : 0 < significand)
    (around : single.IsAround significand exponent quantity) :
    (2 : ℚ) ^ (exponent - 1) ≤ quantity := by
  have quarter : (0 : ℚ) < 2 ^ (exponent - 2) := by positivity
  have positiveCast : (1 : ℚ) ≤ significand := by exact_mod_cast positive
  calc (2 : ℚ) ^ (exponent - 1) = 2 * 2 ^ (exponent - 2) :=
        two_zpow_half_eq exponent
    _ ≤ (4 * significand - 2) * 2 ^ (exponent - 2) := by
        refine mul_le_mul_of_nonneg_right ?_ quarter.le
        linarith
    _ ≤ single.lowEnd significand exponent :=
        single.le_lowEnd significand exponent
    _ ≤ quantity := around.low

/-- A number of 64 bits around a number of 32 is rounded to it. -/
theorem Double.toSingle_of_around
    {number : Double}
    {found significand : Nat}
    {foundExponent exponent : Int}
    (finite : number.magnitude = .finite found foundExponent)
    (isNumber : single.IsNumber significand exponent)
    (positive : 0 < significand)
    (fits : significand < 2 ^ 24)
    (below : single.place significand exponent < single.infinity)
    (around :
      single.IsAround significand exponent (found * 2 ^ foundExponent)) :
    number.toSingle.bits.toNat =
      single.withSign number.isNegative (single.place significand exponent) := by
  have foundPositive : 0 < found := by
    have reached := half_le_of_around positive around
    refine Nat.pos_of_ne_zero fun zero => ?_
    rw [zero, Nat.cast_zero, zero_mul] at reached
    exact absurd reached (not_le.mpr (by positivity))
  have quotient :
      ((found * twoTo foundExponent.toNat : Nat) : ℚ) =
        found * 2 ^ foundExponent * (twoTo (-foundExponent).toNat : Nat) := by
    have power : (0 : ℚ) < 2 ^ (-foundExponent).toNat := by positivity
    rw [zpow_eq_div 2 (by norm_num)]
    simp only [twoTo, Nat.pow_eq]
    push_cast
    rw [mul_assoc, div_mul_cancel₀ _ power.ne']
  have nearest :
      single.nearest (found * twoTo foundExponent.toNat)
          (twoTo (-foundExponent).toNat)
        = single.place significand exponent := by
    rw [single.nearest_of_around isNumber fits around
      (Nat.mul_pos foundPositive (BinaryFormat.twoTo_pos _))
      (BinaryFormat.twoTo_pos _) quotient, min_eq_right below.le]
  have withinBits :
      single.withSign number.isNegative (single.place significand exponent)
        < 2 ^ 32 :=
    single.withSign_lt (below.trans_le single.infinity_le_signBit)
      number.isNegative
  have converted :
      double.convert single number.bits.toNat =
        single.withSign number.isNegative
          (single.place significand exponent) := by
    rw [BinaryFormat.convert, show double.magnitudeOf number.bits.toNat = _
      from finite]
    simp only [nearest]
    rfl
  rw [Double.toSingle, converted]
  exact UInt32.toNat_ofNat_of_lt withinBits

/--
A decimal that lies around a number of 32 bits, and is the nearest one of its
grid, is read as the number by way of 64 bits.
-/
theorem Decimal.toSingle_toDouble
    {decimal : Decimal}
    {significand : Nat}
    {exponent : Int}
    (number : single.IsNumber significand exponent)
    (positive : 0 < significand)
    (fits : significand < 2 ^ 24)
    (below : single.place significand exponent < single.infinity)
    (greatest : exponent ≤ 104)
    {point : Nat}
    {power : Int}
    (quantity_eq : decimal.quantity = point * 10 ^ power)
    (around : single.IsAround significand exponent (point * 10 ^ power))
    (near :
      ¬single.IsNarrow significand exponent →
        |(point : ℚ) * 10 ^ power - significand * 2 ^ exponent|
          ≤ 10 ^ power / 2)
    (regular :
      ¬(exponent = closeExponent ∧ significand = closeSignificand)) :
    decimal.toDouble.toSingle.bits.toNat =
      single.withSign decimal.negative (single.place significand exponent) := by
  have least : -149 ≤ exponent := number.least
  have fitsCast : (significand : ℚ) + 1 ≤ 2 ^ 24 := by exact_mod_cast fits
  have low : (2 : ℚ) ^ (-150 : Int) ≤ decimal.quantity := by
    rw [quantity_eq]
    exact (zpow_le_zpow_right₀ (by norm_num) (by omega)).trans
      (half_le_of_around positive around)
  have high : decimal.quantity < 2 ^ 129 := by
    rw [quantity_eq]
    calc (point : ℚ) * 10 ^ power
        ≤ (4 * significand + 2) * 2 ^ (exponent - 2) := around.high
      _ ≤ (4 * 2 ^ 24) * 2 ^ (102 : Int) := by
          gcongr
          · linarith
          · norm_num
          · omega
      _ < 2 ^ 129 := by norm_num
  obtain ⟨found, unit, doubleSignificand, doubleExponent, isUnit, rounded, sign,
    finite, same⟩ := toDouble_isRounded low high
  rw [quantity_eq] at isUnit rounded
  have kept :=
    around_of_rounded number positive fits greatest around near isUnit rounded
      regular
  rw [← same] at kept
  rw [← sign]
  exact Double.toSingle_of_around finite number positive fits below kept

end SyntheticTable
