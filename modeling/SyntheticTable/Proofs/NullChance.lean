import Mathlib.Algebra.Order.Floor.Div
import SyntheticTable.Proofs.Generators
import SyntheticTable.Proofs.NumberRange

/-!
# Chances of nulls

The null frequency of a column is taken if it is a chance: a number from zero
to one, with zeros of either sign among them.  What is infinite, negative or no
number at all is refused, whatever the number of rows.
-/

namespace SyntheticTable

/-- The number that bits stand for, unless it is infinite or no number. -/
def Single.value? (number : Single) : Option ℚ :=
  match number.magnitude with
  | .finite significand exponent =>
      let size : ℚ := significand * 2 ^ exponent
      some (if number.isNegative then -size else size)
  | .infinite | .notANumber => none

/-- Whether a number is a chance: from zero to one. -/
def Single.IsChance (number : Single) : Prop :=
  ∃ value, number.value? = some value ∧ 0 ≤ value ∧ value ≤ 1

namespace NullRule

theorem ofFrequency?_of_isZero
    {frequency : Single}
    (zero : frequency.isZero = true) :
    ofFrequency? frequency = some .never := by
  have magnitude : frequency.bits.toNat % twoTo 31 = 0 := by
    have masked := congrArg UInt32.toNat (eq_of_beq zero)
    rw [UInt32.toNat_and] at masked
    exact (Nat.and_two_pow_sub_one_eq_mod _ 31).symm.trans masked
  have nothing : frequency.magnitude = .finite 0 BinaryFormat.single.leastExponent := by
    show BinaryFormat.single.magnitudeOf frequency.bits.toNat = _
    have sign : BinaryFormat.single.signBit = twoTo 31 := rfl
    simp [BinaryFormat.magnitudeOf, sign, magnitude]
  rw [ofFrequency?, nothing]
  rfl

/-- Steps of a number exceed those of one exactly when the number does. -/
theorem one_lt_steps_iff (significand : Nat) (exponent : Int) :
    twoTo 24 * twoTo (-exponent).toNat <
        significand * twoTo 24 * twoTo exponent.toNat ↔
      (1 : ℚ) < significand * 2 ^ exponent := by
  have scaled :
      significand * twoTo 24 * twoTo exponent.toNat =
        twoTo 24 * (significand * twoTo exponent.toNat) := by
    rw [Nat.mul_comm significand, Nat.mul_assoc]
  have compared :=
    mul_pow_le_mul_pow_iff 2 Nat.two_pos exponent significand 1
  rw [Nat.one_mul, Nat.cast_one] at compared
  rw [scaled, Nat.mul_lt_mul_left (Nat.pow_pos (n := 24) Nat.two_pos), ← not_le]
  exact (not_congr compared).trans not_le

/-- Nulls follow a rule exactly when their frequency is a chance. -/
theorem ofFrequency?_isSome_iff (frequency : Single) :
    (ofFrequency? frequency).isSome = true ↔ frequency.IsChance := by
  unfold ofFrequency? Single.IsChance Single.value?
  cases frequency.magnitude with
  | infinite => simp
  | notANumber => simp
  | finite significand exponent =>
      have exceeds := one_lt_steps_iff significand exponent
      by_cases zero : significand = 0
      · simp [zero]
      · have size : (0 : ℚ) < significand * 2 ^ exponent := by positivity
        cases frequency.isNegative with
        | true =>
            have below : ¬ (0 : ℚ) ≤ -(significand * 2 ^ exponent) := by
              linarith
            simp only [zero, Bool.true_or, if_true, if_false, Option.isSome_none,
              Option.some.injEq, exists_eq_left', below, false_and,
              Bool.false_eq_true]
        | false =>
            simp only [zero, if_false, Bool.false_or, decide_eq_true_eq, exceeds,
              Bool.false_eq_true, Option.some.injEq, exists_eq_left', size.le,
              true_and]
            by_cases greater : (1 : ℚ) < significand * 2 ^ exponent
            · simp [greater]
            · simp [greater, not_lt.1 greater]

/--
A lot reaches the steps of a number, rounded up, exactly if as a fraction it
reaches the number.
-/
theorem steps_le_iff
    (significand : Nat)
    (exponent : Int)
    (lot : Nat) :
    (significand * twoTo 24 * twoTo exponent.toNat +
          (twoTo (-exponent).toNat - 1)) /
        twoTo (-exponent).toNat ≤ lot ↔
      (significand * 2 ^ exponent : ℚ) * 2 ^ 24 ≤ lot := by
  have unitPositive : 0 < twoTo (-exponent).toNat := Nat.two_pow_pos _
  have compared :=
    mul_pow_le_mul_pow_iff 2 Nat.two_pos exponent (significand * twoTo 24) lot
  have scaled :
      ((significand * twoTo 24 : Nat) : ℚ) * ((2 : Nat) : ℚ) ^ exponent =
        significand * 2 ^ exponent * 2 ^ 24 := by
    rw [twoTo]
    push_cast
    ring
  rw [← Nat.add_sub_assoc unitPositive, ← Nat.ceilDiv_eq_add_pred_div,
    ceilDiv_le_iff_le_mul unitPositive, Nat.mul_comm _ lot, ← scaled]
  exact compared

/-- A chance above zero makes those cells null whose lot, as a fraction, lies below it. -/
theorem exists_threshold
    {frequency : Single}
    {chance : ℚ}
    (value : frequency.value? = some chance)
    (positive : 0 < chance)
    (atMostOne : chance ≤ 1) :
    ∃ threshold,
      ofFrequency? frequency = some (.below threshold) ∧
        ∀ lot : Nat, threshold ≤ lot ↔ chance * 2 ^ 24 ≤ lot := by
  unfold Single.value? at value
  unfold ofFrequency?
  cases size : frequency.magnitude with
  | infinite =>
      rw [size] at value
      cases value
  | notANumber =>
      rw [size] at value
      cases value
  | finite significand exponent =>
      simp only [size, Option.some.injEq] at value
      have notNegative : (0 : ℚ) ≤ significand * 2 ^ exponent := by positivity
      cases sign : frequency.isNegative with
      | true =>
          rw [sign, if_pos rfl] at value
          linarith
      | false =>
          rw [sign, if_neg Bool.false_ne_true] at value
          subst value
          have nonzero : significand ≠ 0 := by
            rintro rfl
            simp at positive
          have inside := mt (one_lt_steps_iff significand exponent).1 (not_lt.2 atMostOne)
          simp only [nonzero, inside, if_false, Bool.false_or, decide_false,
            Bool.false_eq_true]
          exact ⟨_, rfl, steps_le_iff significand exponent⟩

end NullRule

namespace DrawPlan

variable
    (params : ColumnParams)
    (rows : Nat)

theorem exists_of_iff :
    (∃ plan, DrawPlan.of params rows = .ok plan) ↔
      params.nullFrequency.IsChance := by
  rw [← NullRule.ofFrequency?_isSome_iff, of_eq]
  cases NullRule.ofFrequency? params.nullFrequency <;> simp

theorem of_eq_error_iff (error : BuildError) :
    DrawPlan.of params rows = .error error ↔
      ¬ params.nullFrequency.IsChance ∧
        error = .invalidNullFrequency params.nullFrequency := by
  rw [← NullRule.ofFrequency?_isSome_iff, of_eq]
  cases NullRule.ofFrequency? params.nullFrequency <;> simp [eq_comm]

end DrawPlan

end SyntheticTable
