import SyntheticTable.Number.Shortest
import SyntheticTable.Proofs.RoundedNumbers

/-!
# Where shortest decimals lie

The shortest decimal of a number lies in the interval of the quantities that
round to the number.  If the interval reaches as far down as up, the decimal is
moreover the nearest one on its grid, because a grid point in the interval is
not farther away than one outside.
-/

namespace SyntheticTable

namespace RoundingInterval

variable
    (interval : RoundingInterval)
    {tie : DecimalTie}
    {power : Int}
    {point : Nat}

/-- Where a point of a grid lies, in the units of an interval. -/
def position (power : Int) (point : Nat) : ℚ :=
  point * 10 ^ power * interval.denominator

theorem position_succ (power : Int) (point : Nat) :
    interval.position power (point + 1) =
      interval.position power point + 10 ^ power * interval.denominator := by
  rw [position, position]
  push_cast
  ring

/-! ## Comparing positions -/

theorem position_le_iff (power : Int) (point bound : Nat) :
    point * tenTo power.toNat * interval.denominator
        ≤ bound * tenTo (-power).toNat
      ↔ interval.position power point ≤ bound := by
  have compared :=
    mul_pow_le_mul_pow_iff 10 (by omega) power (point * interval.denominator)
      bound
  rw [Nat.mul_right_comm]
  refine compared.trans ?_
  rw [position]
  push_cast
  rw [mul_right_comm]

theorem le_position_iff (power : Int) (point bound : Nat) :
    bound * tenTo (-power).toNat
        ≤ point * tenTo power.toNat * interval.denominator
      ↔ bound ≤ interval.position power point := by
  have compared :=
    mul_pow_le_mul_pow_iff 10 (by omega) (-power) bound
      (point * interval.denominator)
  rw [neg_neg] at compared
  rw [Nat.mul_right_comm]
  refine compared.trans ?_
  rw [position, zpow_neg, ← div_eq_mul_inv, div_le_iff₀ (by positivity)]
  push_cast
  rw [mul_right_comm]

theorem contains_iff :
    interval.contains power point = true ↔
      (interval.low ≤ interval.position power point
          ∧ interval.position power point ≤ interval.high)
        ∧ (interval.closed = true
          ∨ interval.low < interval.position power point
            ∧ interval.position power point < interval.high) := by
  have low := interval.le_position_iff power point interval.low
  have high := interval.position_le_iff power point interval.high
  have lowStrict := (interval.position_le_iff power point interval.low).not
  have highStrict := (interval.le_position_iff power point interval.high).not
  rw [not_le, not_le] at lowStrict highStrict
  unfold contains
  cases interval.closed with
  | true =>
      simp only [if_true, Bool.and_eq_true, decide_eq_true_eq, low, high]
      simp
  | false =>
      simp only [Bool.false_eq_true, if_false, Bool.and_eq_true,
        decide_eq_true_eq, lowStrict, highStrict, false_or]
      exact ⟨fun strict => ⟨⟨strict.1.le, strict.2.le⟩, strict⟩, And.right⟩

theorem value_lt_position
    (positive : 0 < interval.denominator)
    (power : Int) :
    interval.value
      < interval.position power (interval.pointBelow power + 1) := by
  have scale : 0 < interval.denominator * tenTo power.toNat :=
    Nat.mul_pos positive (Nat.pow_pos (by omega))
  rw [← not_le, ← interval.position_le_iff, not_le, Nat.mul_assoc,
    Nat.mul_comm (tenTo _)]
  exact Nat.lt_mul_of_div_lt (Nat.lt_succ_self _) scale

/-! ## Points that are taken -/

theorem contains_of_pointOn?
    (taken : interval.pointOn? tie power = some point) :
    interval.contains power point = true := by
  simp only [pointOn?] at taken
  grind

/-- A point is taken if the point below the number lies in the interval. -/
theorem exists_pointOn?
    (inside : interval.contains power (interval.pointBelow power) = true) :
    ∃ point, interval.pointOn? tie power = some point := by
  simp only [pointOn?, inside]
  cases interval.contains power (interval.pointBelow power + 1) with
  | false => exact ⟨_, rfl⟩
  | true =>
      simp only
      split
      · exact ⟨_, rfl⟩
      split
      · exact ⟨_, rfl⟩
      cases tie with
      | upward => exact ⟨_, rfl⟩
      | toEven =>
          simp only
          split <;> exact ⟨_, rfl⟩

/-- What the search for a grid ends with, if the finest grid has a point. -/
theorem firstPoint_eq
    (tie : DecimalTie)
    (grids : Nat)
    (power : Int)
    (inside :
      interval.contains (power - grids)
        (interval.pointBelow (power - grids)) = true) :
    ∃ found point,
      interval.firstPoint tie (grids + 1) power = (point, found)
        ∧ interval.pointOn? tie found = some point := by
  induction grids generalizing power with
  | zero =>
      rw [Nat.cast_zero, sub_zero] at inside
      obtain ⟨point, taken⟩ : ∃ point, interval.pointOn? tie power = some point :=
        interval.exists_pointOn? inside
      exact ⟨power, point, by rw [firstPoint, taken], taken⟩
  | succ grids inductionHypothesis =>
      rw [firstPoint]
      cases taken : interval.pointOn? tie power with
      | some point => exact ⟨power, point, rfl, taken⟩
      | none =>
          refine inductionHypothesis (power - 1) ?_
          rwa [show power - 1 - (grids : Int) = power - (grids + 1 : Nat) by
            push_cast; omega]

/-! ## The nearest point -/

/-- The point below is taken from two only if it is not the farther one. -/
theorem taken_of_both
    (taken : interval.pointOn? tie power = some point)
    (below : interval.contains power (interval.pointBelow power) = true)
    (above : interval.contains power (interval.pointBelow power + 1) = true) :
    point = interval.pointBelow power
        ∧ 2 * interval.value
          ≤ interval.position power
            (interval.pointBelow power + (interval.pointBelow power + 1))
      ∨ point = interval.pointBelow power + 1
        ∧ interval.position power
            (interval.pointBelow power + (interval.pointBelow power + 1))
          ≤ 2 * interval.value := by
  have nearBelow :=
    interval.le_position_iff power
      (interval.pointBelow power + (interval.pointBelow power + 1))
      (2 * interval.value)
  have nearAbove :=
    interval.position_le_iff power
      (interval.pointBelow power + (interval.pointBelow power + 1))
      (2 * interval.value)
  push_cast at nearBelow nearAbove
  rw [← nearBelow, ← nearAbove, Nat.mul_assoc 2]
  simp only [pointOn?, below, above] at taken
  split at taken
  · exact .inl ⟨(Option.some.inj taken).symm, by omega⟩
  split at taken
  · exact .inr ⟨(Option.some.inj taken).symm, by omega⟩
  have same :
      point = interval.pointBelow power
        ∨ point = interval.pointBelow power + 1 := by
    cases tie with
    | upward => exact .inr (Option.some.inj taken).symm
    | toEven =>
        simp only at taken
        split at taken
        · exact .inl (Option.some.inj taken).symm
        · exact .inr (Option.some.inj taken).symm
  rcases same with same | same
  · exact .inl ⟨same, by omega⟩
  · exact .inr ⟨same, by omega⟩

theorem contains_of_between
    (above : interval.low < interval.position power point)
    (below : interval.position power point < interval.high) :
    interval.contains power point = true :=
  interval.contains_iff.mpr ⟨⟨above.le, below.le⟩, .inr ⟨above, below⟩⟩

/-- A point above the number that is outside lies beyond the interval. -/
theorem high_le_position
    (proper : (interval.low : ℚ) < interval.value)
    (aboveValue : interval.value < interval.position power point)
    (outside : interval.contains power point = false) :
    interval.high ≤ interval.position power point := by
  by_contra inside
  rw [not_le] at inside
  have contained :=
    interval.contains_of_between (proper.trans aboveValue) inside
  rw [contained] at outside
  cases outside

/-- A point below the number that is outside lies before the interval. -/
theorem position_le_low
    (proper : (interval.value : ℚ) < interval.high)
    (under : interval.position power point ≤ interval.value)
    (outside : interval.contains power point = false) :
    interval.position power point ≤ interval.low := by
  by_contra inside
  rw [not_le] at inside
  have contained :=
    interval.contains_of_between inside (under.trans_lt proper)
  rw [contained] at outside
  cases outside

/-- In an interval that is even on both sides the nearest point is taken. -/
theorem near_of_pointOn?
    (positive : 0 < interval.denominator)
    (even :
      (interval.high : ℚ) - interval.value = interval.value - interval.low)
    (proper : (interval.low : ℚ) < interval.value)
    (taken : interval.pointOn? tie power = some point) :
    |interval.position power point - interval.value|
      ≤ 10 ^ power * interval.denominator / 2 := by
  have step := interval.position_succ power (interval.pointBelow power)
  have middle :
      interval.position power
          (interval.pointBelow power + (interval.pointBelow power + 1)) =
        2 * interval.position power (interval.pointBelow power)
          + 10 ^ power * interval.denominator := by
    rw [position, position]
    push_cast
    ring
  have under :
      interval.position power (interval.pointBelow power) ≤ interval.value :=
    interval.pointBelow_le power
  have aboveValue := interval.value_lt_position positive power
  rw [step] at aboveValue
  have inside := interval.contains_iff.mp (interval.contains_of_pointOn? taken)
  rw [abs_le]
  cases below : interval.contains power (interval.pointBelow power) with
  | true =>
      cases above : interval.contains power (interval.pointBelow power + 1) with
      | true =>
          rcases interval.taken_of_both taken below above with
            ⟨rfl, nearer⟩ | ⟨rfl, nearer⟩
          · constructor <;> linarith
          · constructor <;> linarith
      | false =>
          have beyond :=
            interval.high_le_position proper (step ▸ aboveValue) above
          have taken_eq : point = interval.pointBelow power := by
            simp only [pointOn?, below, above] at taken
            exact (Option.some.inj taken).symm
          subst taken_eq
          constructor <;> linarith
  | false =>
      have before :=
        interval.position_le_low (by linarith) under below
      cases above : interval.contains power (interval.pointBelow power + 1) with
      | true =>
          have taken_eq : point = interval.pointBelow power + 1 := by
            simp only [pointOn?, below, above] at taken
            exact (Option.some.inj taken).symm
          subst taken_eq
          constructor <;> linarith
      | false =>
          simp only [pointOn?, below, above] at taken
          cases taken

/-! ## The interval of a number -/

section Ends

variable
    (format : BinaryFormat)
    {significand : Nat}
    (exponent : Int)

theorem denominator_of_pos (significand : Nat) :
    0 < (of format significand exponent).denominator :=
  Nat.pow_pos (by omega)

theorem quarter_of (significand : Nat) :
    (twoTo (exponent - 2).toNat : ℚ) =
      2 ^ (exponent - 2) * (of format significand exponent).denominator := by
  rw [zpow_eq_div 2 (by norm_num)]
  simp only [of, twoTo, Nat.pow_eq]
  push_cast
  field_simp

theorem high_of (significand : Nat) :
    ((of format significand exponent).high : ℚ) =
      BinaryFormat.highEnd significand exponent
        * (of format significand exponent).denominator := by
  have quarter := quarter_of format exponent significand
  have high :
      (of format significand exponent).high =
        (4 * significand + 2) * twoTo (exponent - 2).toNat :=
    rfl
  rw [high, BinaryFormat.highEnd_eq, mul_assoc, ← quarter, Nat.cast_mul]

theorem low_of (positive : 0 < significand) :
    ((of format significand exponent).low : ℚ) =
      format.lowEnd significand exponent
        * (of format significand exponent).denominator := by
  have quarter := quarter_of format exponent significand
  have low :
      (of format significand exponent).low =
        (4 * significand
            - if format.IsNarrow significand exponent then 1 else 2)
          * twoTo (exponent - 2).toNat :=
    rfl
  rw [low, format.lowEnd_eq positive, mul_assoc, ← quarter, Nat.cast_mul]

theorem isAround_of_contains
    (positive : 0 < significand)
    (contained :
      (of format significand exponent).contains power point = true) :
    format.IsAround significand exponent (point * 10 ^ power) := by
  have denominator : (0 : ℚ) < (of format significand exponent).denominator := by
    exact_mod_cast denominator_of_pos format exponent significand
  have closed :
      (of format significand exponent).closed = decide (significand % 2 = 0) :=
    rfl
  rw [contains_iff, closed, decide_eq_true_eq, position,
    low_of format exponent positive, high_of, mul_le_mul_iff_left₀ denominator,
    mul_le_mul_iff_left₀ denominator, mul_lt_mul_iff_left₀ denominator,
    mul_lt_mul_iff_left₀ denominator] at contained
  exact ⟨contained.1.1, contained.1.2, contained.2⟩

/--
The step of the finest grid that is tried for a number of 32 bits is less than
a quarter of the unit of the number.
-/
theorem finest_lt
    (positive : 0 < significand)
    (fits : significand < 2 ^ 24) :
    (10 : ℚ) ^ ((of .single significand exponent).leadingExponent - 8)
      < 2 ^ (exponent - 2) := by
  have denominatorPositive := denominator_of_pos .single exponent significand
  have value := value_of .single significand exponent
  generalize of .single significand exponent = interval at *
  have denominator : (0 : ℚ) < interval.denominator := by
    exact_mod_cast denominatorPositive
  have positiveCast : (0 : ℚ) < significand := by exact_mod_cast positive
  have fitsCast : (significand : ℚ) < 2 ^ 24 := by exact_mod_cast fits
  have quarter : (0 : ℚ) < 2 ^ (exponent - 2) := by positivity
  have valuePositive : 0 < interval.value := by
    rw [← Nat.cast_pos (α := ℚ), value]
    positivity
  have leading := interval.leadingExponent_le valuePositive denominatorPositive
  rw [value, mul_le_mul_iff_left₀ denominator, two_zpow_eq_four_mul exponent]
    at leading
  rw [zpow_sub₀ (by norm_num), div_lt_iff₀ (by positivity)]
  calc (10 : ℚ) ^ interval.leadingExponent
      ≤ significand * (4 * 2 ^ (exponent - 2)) := leading
    _ ≤ 2 ^ 24 * (4 * 2 ^ (exponent - 2)) := by gcongr
    _ < 2 ^ (exponent - 2) * 10 ^ (8 : Int) := by
        norm_num
        linarith

/-- The finest grid that is tried for a number has a point in the interval. -/
theorem contains_finest
    (positive : 0 < significand)
    (fits : significand < 2 ^ 24) :
    let interval := of .single significand exponent
    interval.contains (interval.leadingExponent - 8)
      (interval.pointBelow (interval.leadingExponent - 8)) = true := by
  intro interval
  have finest : (10 : ℚ) ^ (interval.leadingExponent - 8) < 2 ^ (exponent - 2) :=
    finest_lt exponent positive fits
  generalize interval.leadingExponent - 8 = power at finest ⊢
  have denominatorPositive : 0 < interval.denominator :=
    denominator_of_pos .single exponent significand
  have denominator : (0 : ℚ) < interval.denominator := by
    exact_mod_cast denominatorPositive
  have quarter : (0 : ℚ) < 2 ^ (exponent - 2) := by positivity
  have unit := mul_pos quarter denominator
  have step := mul_lt_mul_of_pos_right finest denominator
  have under :
      interval.position power (interval.pointBelow power) ≤ interval.value :=
    interval.pointBelow_le power
  have aboveValue := interval.value_lt_position denominatorPositive power
  rw [position_succ] at aboveValue
  have low : (interval.low : ℚ)
      ≤ (4 * significand - 1) * 2 ^ (exponent - 2) * interval.denominator := by
    rw [low_of .single exponent positive]
    exact mul_le_mul_of_nonneg_right
      (BinaryFormat.single.lowEnd_le significand exponent) denominator.le
  have high : (interval.high : ℚ)
      = (4 * significand + 2) * 2 ^ (exponent - 2) * interval.denominator :=
    high_of .single exponent significand
  have center : (interval.value : ℚ)
      = 4 * significand * 2 ^ (exponent - 2) * interval.denominator := by
    rw [value_of, two_zpow_eq_four_mul exponent]
    ring
  refine interval.contains_of_between ?_ ?_
  · linarith
  · linarith

/-- In the interval of an odd significand both halves are equally long. -/
theorem near_of_odd
    (positive : 0 < significand)
    (notNarrow : ¬format.IsNarrow significand exponent)
    (taken :
      (of format significand exponent).pointOn? tie power = some point) :
    |(point : ℚ) * 10 ^ power - significand * 2 ^ exponent|
      ≤ 10 ^ power / 2 := by
  have denominatorPositive := denominator_of_pos format exponent significand
  have denominator : (0 : ℚ) < (of format significand exponent).denominator := by
    exact_mod_cast denominatorPositive
  have quarter : (0 : ℚ) < 2 ^ (exponent - 2) := by positivity
  have unit := mul_pos quarter denominator
  have value := value_of format significand exponent
  have low := low_of format exponent positive
  have high := high_of format exponent significand
  rw [two_zpow_eq_four_mul exponent] at value ⊢
  rw [BinaryFormat.lowEnd, if_neg notNarrow] at low
  rw [BinaryFormat.highEnd] at high
  have near :=
    near_of_pointOn? _ denominatorPositive (by linarith) (by linarith) taken
  rw [position, value, ← sub_mul, abs_mul, abs_of_pos denominator,
    mul_div_right_comm, mul_le_mul_iff_left₀ denominator] at near
  exact near

end Ends

end RoundingInterval

/--
The shortest decimal of a number of 32 bits lies in the interval around the
number, and is the nearest one on its grid if the significand is odd.
-/
theorem shortestDecimal_around
    {significand : Nat}
    (exponent : Int)
    (positive : 0 < significand)
    (fits : significand < 2 ^ 24)
    (tie : DecimalTie)
    (negative : Bool) :
    ∃ (point : Nat) (power : Int),
      (shortestDecimal .single tie negative significand exponent).quantity
          = point * 10 ^ power
        ∧ BinaryFormat.single.IsAround significand exponent (point * 10 ^ power)
        ∧ (¬BinaryFormat.single.IsNarrow significand exponent →
          |(point : ℚ) * 10 ^ power - significand * 2 ^ exponent|
            ≤ 10 ^ power / 2) := by
  have finest := RoundingInterval.contains_finest exponent positive fits
  generalize intervalEq :
    RoundingInterval.of .single significand exponent = interval at finest
  obtain ⟨power, point, found, taken⟩ :=
    interval.firstPoint_eq tie 8 interval.leadingExponent finest
  have contained := interval.contains_of_pointOn? taken
  subst intervalEq
  refine ⟨point, power, ?_,
    RoundingInterval.isAround_of_contains .single exponent positive contained,
    fun notNarrow =>
      RoundingInterval.near_of_odd .single exponent positive notNarrow taken⟩
  have precision : BinaryFormat.single.decimalPrecision = 8 + 1 := rfl
  rw [shortestDecimal, if_neg positive.ne', precision]
  simp only [found, Decimal.quantity, withoutTrailingZeros_quantity]

end SyntheticTable
