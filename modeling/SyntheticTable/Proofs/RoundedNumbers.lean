import SyntheticTable.Proofs.NumberRange

/-!
# Numbers nearest to quantities

Rounding a quantity to a whole number misses it by at most a half, and does not
pass a whole number on the way.  The numbers of a format are the whole numbers
of a unit, so both hold for them: a quantity in the interval around a number
rounds to the number, and the number that a quantity rounds to is not farther
away than half a unit.
-/

namespace SyntheticTable

/-! ## Quotients -/

section Quotients

variable
    {numerator denominator whole : Nat}
    {quantity : ℚ}

/-- A whole number that is nearest, and even if it is not the only one. -/
theorem roundedQuotient_eq
    (positive : 0 < denominator)
    (low : 2 * (whole * denominator) ≤ 2 * numerator + denominator)
    (high : 2 * numerator ≤ 2 * (whole * denominator) + denominator)
    (tie :
      whole % 2 = 0
        ∨ 2 * (whole * denominator) < 2 * numerator + denominator
          ∧ 2 * numerator < 2 * (whole * denominator) + denominator) :
    roundedQuotient numerator denominator = whole := by
  have split := Nat.div_add_mod' numerator denominator
  have rest := Nat.mod_lt numerator positive
  simp only [roundedQuotient]
  generalize numerator / denominator = quotient at *
  generalize numerator % denominator = remainder at *
  have notAbove : whole < quotient + 2 := by
    refine Nat.lt_of_mul_lt_mul_right (a := denominator) ?_
    rw [Nat.add_mul]
    omega
  have notBelow : quotient < whole + 1 := by
    refine Nat.lt_of_mul_lt_mul_right (a := denominator) ?_
    rw [Nat.add_mul]
    omega
  obtain rfl | rfl : whole = quotient ∨ whole = quotient + 1 := by omega
  · split
    · rfl
    · split <;> omega
  · rw [Nat.add_mul] at low high tie
    split
    · omega
    · split <;> omega

theorem roundedQuotient_le_of_le
    (positive : 0 < denominator)
    (above : numerator ≤ whole * denominator) :
    roundedQuotient numerator denominator ≤ whole := by
  rcases Nat.eq_or_lt_of_le above with exactly | below
  · refine (roundedQuotient_eq positive ?_ ?_ (.inr ⟨?_, ?_⟩)).le
    all_goals omega
  · exact roundedQuotient_le below

theorem le_roundedQuotient
    (below : whole * denominator ≤ numerator)
    (positive : 0 < denominator) :
    whole ≤ roundedQuotient numerator denominator := by
  have quotient : whole ≤ numerator / denominator :=
    (Nat.le_div_iff_mul_le positive).mpr below
  refine quotient.trans ?_
  simp only [roundedQuotient]
  split
  · exact le_rfl
  split
  · exact Nat.le_succ _
  · exact Nat.le_add_right _ _

/-- A rounded quotient misses the quotient by at most a half. -/
theorem roundedQuotient_bounds (positive : 0 < denominator) :
    2 * (roundedQuotient numerator denominator * denominator)
        ≤ 2 * numerator + denominator
      ∧ 2 * numerator
        ≤ 2 * (roundedQuotient numerator denominator * denominator)
          + denominator := by
  have split := Nat.div_add_mod' numerator denominator
  have rest := Nat.mod_lt numerator positive
  simp only [roundedQuotient]
  generalize numerator / denominator = quotient at *
  generalize numerator % denominator = remainder at *
  split
  · omega
  split
  · rw [Nat.add_mul]
    omega
  · rcases Nat.mod_two_eq_zero_or_one quotient with even | odd
    · rw [even, Nat.add_zero]
      omega
    · rw [odd, Nat.add_mul]
      omega

end Quotients

/-! ## Quantities -/

section Quantities

variable
    {numerator denominator : Nat}
    {quantity : ℚ}

theorem quotient_in_units
    (quotient : (numerator : ℚ) = quantity * denominator)
    (exponent : Int) :
    ((numerator * twoTo (-exponent).toNat : Nat) : ℚ) =
      quantity * 2 ^ (-exponent)
        * (denominator * twoTo exponent.toNat : Nat) := by
  rw [zpow_eq_div 2 (by norm_num), neg_neg]
  simp only [twoTo, Nat.pow_eq]
  push_cast
  rw [quotient]
  field_simp

theorem roundedQuotient_of_near
    (positive : 0 < denominator)
    (quotient : (numerator : ℚ) = quantity * denominator)
    {whole : Nat}
    (low : whole - 1 / 2 ≤ quantity)
    (high : quantity ≤ whole + 1 / 2)
    (tie :
      whole % 2 = 0
        ∨ whole - 1 / 2 < quantity ∧ quantity < whole + 1 / 2) :
    roundedQuotient numerator denominator = whole := by
  have denominatorCast : (0 : ℚ) < denominator := by exact_mod_cast positive
  have lowScaled := mul_le_mul_of_nonneg_right low denominatorCast.le
  have highScaled := mul_le_mul_of_nonneg_right high denominatorCast.le
  refine roundedQuotient_eq positive ?_ ?_ (tie.imp_right fun strict => ?_)
  · qify
    linarith
  · qify
    linarith
  · have lowStrict := mul_lt_mul_of_pos_right strict.1 denominatorCast
    have highStrict := mul_lt_mul_of_pos_right strict.2 denominatorCast
    qify
    constructor <;> linarith

theorem roundedQuotient_near
    (positive : 0 < denominator)
    (quotient : (numerator : ℚ) = quantity * denominator) :
    |(roundedQuotient numerator denominator : ℚ) - quantity| ≤ 1 / 2 := by
  have denominatorCast : (0 : ℚ) < denominator := by exact_mod_cast positive
  obtain ⟨low, high⟩ := @roundedQuotient_bounds numerator _ positive
  qify at low high
  rw [quotient] at low high
  rw [abs_le]
  constructor
  · refine le_of_mul_le_mul_right ?_ denominatorCast
    linarith
  · refine le_of_mul_le_mul_right ?_ denominatorCast
    linarith

/-- Rounding does not pass a whole number on either side. -/
theorem roundedQuotient_between
    (positive : 0 < denominator)
    (quotient : (numerator : ℚ) = quantity * denominator)
    (whole : Nat) :
    (quantity ≤ whole → roundedQuotient numerator denominator ≤ whole)
      ∧ (whole ≤ quantity → whole ≤ roundedQuotient numerator denominator) := by
  have denominatorCast : (0 : ℚ) < denominator := by exact_mod_cast positive
  constructor
  · intro above
    refine roundedQuotient_le_of_le positive ?_
    have scaled := mul_le_mul_of_nonneg_right above denominatorCast.le
    rw [← quotient] at scaled
    exact_mod_cast scaled
  · intro below
    refine le_roundedQuotient ?_ positive
    have scaled := mul_le_mul_of_nonneg_right below denominatorCast.le
    rw [← quotient] at scaled
    exact_mod_cast scaled

end Quantities

/-! ## Numbers of a format -/

namespace BinaryFormat

variable
    (format : BinaryFormat)
    {significand : Nat}
    {exponent : Int}

/-- The magnitude of a number: magnitudes are ordered like numbers. -/
def place (significand : Nat) (exponent : Int) : Nat :=
  (exponent - format.leastExponent).toNat * twoTo format.fractionBits
    + significand

/--
The significand and the exponent of a number.  The carry of rounding may leave
one that is too great by one.
-/
structure IsNumber (significand : Nat) (exponent : Int) : Prop where
  least : format.leastExponent ≤ exponent
  fits : significand ≤ 2 * twoTo format.fractionBits
  leading :
    exponent = format.leastExponent ∨ twoTo format.fractionBits ≤ significand

theorem twoTo_pos (exponent : Nat) : 0 < twoTo exponent :=
  Nat.pow_pos (by omega)

theorem place_of_finite
    (wide : 0 < format.exponentBits)
    {pattern : Nat}
    (finite : format.magnitudeOf pattern = .finite significand exponent) :
    format.IsNumber significand exponent
      ∧ significand < 2 * twoTo format.fractionBits
      ∧ pattern % format.signBit = format.place significand exponent
      ∧ format.place significand exponent < format.infinity := by
  have unit := twoTo_pos format.fractionBits
  have fields : 2 ≤ twoTo format.exponentBits :=
    Nat.pow_le_pow_right (n := 2) (i := 1) (by omega) wide
  have split :=
    Nat.div_add_mod' (pattern % format.signBit) (twoTo format.fractionBits)
  have fraction := Nat.mod_lt (pattern % format.signBit) unit
  simp only [magnitudeOf] at finite
  generalize pattern % format.signBit / twoTo format.fractionBits = field at *
  generalize pattern % format.signBit % twoTo format.fractionBits = rest at *
  by_cases subnormal : field = 0
  · rw [if_pos subnormal] at finite
    obtain ⟨rfl, rfl⟩ := Magnitude.finite.inj finite
    have once := Nat.le_mul_of_pos_left (twoTo format.fractionBits)
      (by omega : 0 < twoTo format.exponentBits - 1)
    rw [subnormal, Nat.zero_mul] at split
    refine ⟨⟨le_rfl, by omega, .inl rfl⟩, by omega, ?_, ?_⟩
    · simp only [place, sub_self, Int.toNat_zero, Nat.zero_mul]
      omega
    · simp only [place, infinity, sub_self, Int.toNat_zero, Nat.zero_mul]
      omega
  · rw [if_neg subnormal] at finite
    by_cases normal : field < twoTo format.exponentBits - 1
    · rw [if_pos normal] at finite
      obtain ⟨rfl, rfl⟩ := Magnitude.finite.inj finite
      obtain ⟨before, rfl⟩ : ∃ before, field = before + 1 :=
        ⟨field - 1, by omega⟩
      have next := Nat.mul_le_mul_right (twoTo format.fractionBits)
        (by omega : before + 2 ≤ twoTo format.exponentBits - 1)
      rw [Nat.add_mul] at split next
      refine ⟨⟨by omega, by omega, .inr (by omega)⟩, by omega, ?_, ?_⟩
      · simp only [place, add_sub_cancel_left, Int.toNat_natCast,
          Nat.add_sub_cancel]
        omega
      · simp only [place, infinity, add_sub_cancel_left, Int.toNat_natCast,
          Nat.add_sub_cancel]
        omega
    · rw [if_neg normal] at finite
      split at finite <;> cases finite

/-- The number at a place has the same quantity, even after a carry. -/
theorem magnitudeOf_place
    (number : format.IsNumber significand exponent)
    (below : format.place significand exponent < format.infinity)
    (negative : Bool) :
    ∃ found foundExponent,
      format.magnitudeOf
          (format.withSign negative (format.place significand exponent))
        = .finite found foundExponent
      ∧ (found : ℚ) * 2 ^ foundExponent = significand * 2 ^ exponent := by
  have unit := twoTo_pos format.fractionBits
  have unsigned :=
    format.withSign_mod (below.trans_le format.infinity_le_signBit) negative
  have field :
      format.place significand exponent / twoTo format.fractionBits
        < twoTo format.exponentBits - 1 :=
    Nat.div_lt_of_lt_mul (by rwa [Nat.mul_comm])
  obtain ⟨steps, exponent_eq⟩ :
      ∃ steps : Nat, exponent = format.leastExponent + steps :=
    ⟨(exponent - format.leastExponent).toNat, by have := number.least; omega⟩
  have steps_eq : (exponent - format.leastExponent).toNat = steps := by omega
  have fits := number.fits
  simp only [magnitudeOf, unsigned]
  simp only [place, steps_eq] at field ⊢
  by_cases subnormal : significand < twoTo format.fractionBits
  · have none : steps = 0 := by
      have leading := number.leading
      omega
    rw [none, Nat.zero_mul, Nat.zero_add, if_pos (Nat.div_eq_of_lt subnormal),
      Nat.mod_eq_of_lt subnormal]
    exact ⟨_, _, rfl, by rw [exponent_eq, none, Nat.cast_zero, add_zero]⟩
  obtain ⟨fraction, significand_eq⟩ :
      ∃ fraction, significand = twoTo format.fractionBits + fraction :=
    ⟨significand - twoTo format.fractionBits, by omega⟩
  have whole :
      steps * twoTo format.fractionBits + significand =
        fraction + twoTo format.fractionBits * (steps + 1) := by
    rw [significand_eq, Nat.mul_add, Nat.mul_comm]
    omega
  rw [whole, Nat.add_mul_div_left _ _ unit] at field ⊢
  have normal : fraction / twoTo format.fractionBits + (steps + 1) ≠ 0 :=
    Nat.succ_ne_zero _
  rw [Nat.add_mul_mod_self_left, if_neg normal, if_pos field]
  refine ⟨_, _, rfl, ?_⟩
  rcases (by omega : fraction < twoTo format.fractionBits
    ∨ fraction = twoTo format.fractionBits) with inside | carried
  · rw [Nat.mod_eq_of_lt inside, Nat.div_eq_of_lt inside, significand_eq,
      exponent_eq]
    congr 3
    omega
  · rw [carried, Nat.mod_self, Nat.div_self unit, significand_eq, carried,
      exponent_eq, show 1 + (steps + 1) - 1 = steps + 1 by omega]
    push_cast
    rw [← add_assoc, zpow_add_one₀ (by norm_num)]
    ring

/-! ## The nearest number -/

/-- The unit in which a quantity is counted has one of these exponents only. -/
structure IsUnit (quantity : ℚ) (exponent : Int) : Prop where
  least : format.leastExponent ≤ exponent
  below : quantity < 2 ^ (exponent + format.fractionBits + 1)
  reached :
    exponent = format.leastExponent
      ∨ 2 ^ (exponent + format.fractionBits) ≤ quantity

variable {format} in
theorem IsUnit.unique
    {quantity : ℚ}
    {other : Int}
    (unit : format.IsUnit quantity exponent)
    (unitOther : format.IsUnit quantity other) :
    exponent = other := by
  have notGreater {lower higher : Int}
      (unitLower : format.IsUnit quantity lower)
      (unitHigher : format.IsUnit quantity higher) : higher ≤ lower := by
    rcases unitHigher.reached with least | reached
    · exact least ▸ unitLower.least
    · have powers :=
        (zpow_lt_zpow_iff_right₀ (by norm_num)).mp
          (reached.trans_lt unitLower.below)
      omega
  exact le_antisymm (notGreater unitOther unit) (notGreater unit unitOther)

section Nearest

variable
    {numerator denominator : Nat}
    {quantity : ℚ}

/-- Rounding counts a quantity in its unit. -/
theorem nearest_eq_place
    (numeratorPositive : 0 < numerator)
    (denominatorPositive : 0 < denominator)
    (quotient : (numerator : ℚ) = quantity * denominator) :
    ∃ exponent,
      format.IsUnit quantity exponent
        ∧ format.nearest numerator denominator =
          min format.infinity
            (format.place
              (roundedQuotient (numerator * twoTo (-exponent).toNat)
                (denominator * twoTo exponent.toNat))
              exponent) := by
  have denominatorCast : (0 : ℚ) < denominator := by
    exact_mod_cast denominatorPositive
  obtain ⟨reached, notPassed⟩ :=
    leadingBinaryExponent_spec numeratorPositive denominatorPositive
  rw [quotient, mul_le_mul_iff_left₀ denominatorCast] at reached
  rw [quotient, mul_lt_mul_iff_left₀ denominatorCast] at notPassed
  refine
    ⟨max format.leastExponent
      (leadingBinaryExponent numerator denominator - format.fractionBits),
      ⟨le_max_left _ _, ?_, ?_⟩, if_neg numeratorPositive.ne'⟩
  · refine notPassed.trans_le (zpow_le_zpow_right₀ (by norm_num) ?_)
    have := le_max_right format.leastExponent
      (leadingBinaryExponent numerator denominator - format.fractionBits)
    omega
  · rcases max_choice format.leastExponent
      (leadingBinaryExponent numerator denominator - format.fractionBits)
      with least | leading
    · exact .inl least
    · right
      rwa [leading, sub_add_cancel]

/-- A quantity within half a unit of a multiple of its unit rounds to it. -/
theorem nearest_of_unit
    (unit : format.IsUnit quantity exponent)
    (low : (significand - 1 / 2) * (2 : ℚ) ^ exponent ≤ quantity)
    (high : quantity ≤ (significand + 1 / 2) * (2 : ℚ) ^ exponent)
    (tie :
      significand % 2 = 0
        ∨ (significand - 1 / 2) * (2 : ℚ) ^ exponent < quantity
          ∧ quantity < (significand + 1 / 2) * (2 : ℚ) ^ exponent)
    (numeratorPositive : 0 < numerator)
    (denominatorPositive : 0 < denominator)
    (quotient : (numerator : ℚ) = quantity * denominator) :
    format.nearest numerator denominator =
      min format.infinity (format.place significand exponent) := by
  obtain ⟨found, unitFound, nearest⟩ :=
    format.nearest_eq_place numeratorPositive denominatorPositive quotient
  obtain rfl := unitFound.unique unit
  have scaledPositive : 0 < denominator * twoTo found.toNat :=
    Nat.mul_pos denominatorPositive (twoTo_pos _)
  have power : (0 : ℚ) < 2 ^ found := by positivity
  rw [nearest,
    roundedQuotient_of_near scaledPositive (quotient_in_units quotient found)]
  · rwa [zpow_neg, ← div_eq_mul_inv, le_div_iff₀ power]
  · rwa [zpow_neg, ← div_eq_mul_inv, div_le_iff₀ power]
  · rwa [zpow_neg, ← div_eq_mul_inv, lt_div_iff₀ power, div_lt_iff₀ power]

/-- A number with the least significand of its exponent. -/
def IsNarrow (significand : Nat) (exponent : Int) : Prop :=
  significand = twoTo format.fractionBits ∧ format.leastExponent < exponent

instance (significand : Nat) (exponent : Int) :
    Decidable (format.IsNarrow significand exponent) :=
  inferInstanceAs (Decidable (_ ∧ _))

/--
The lower end of the interval around a number, half way to the number below it,
which is nearer where a new exponent starts.
-/
def lowEnd (significand : Nat) (exponent : Int) : ℚ :=
  (4 * significand - if format.IsNarrow significand exponent then 1 else 2)
    * 2 ^ (exponent - 2)

/-- The upper end of the interval around a number. -/
def highEnd (significand : Nat) (exponent : Int) : ℚ :=
  (4 * significand + 2) * 2 ^ (exponent - 2)

/-- A quantity lies in the interval around a number, which may have its ends. -/
structure IsAround
    (significand : Nat)
    (exponent : Int)
    (quantity : ℚ) : Prop where
  low : format.lowEnd significand exponent ≤ quantity
  high : quantity ≤ highEnd significand exponent
  tie :
    significand % 2 = 0
      ∨ format.lowEnd significand exponent < quantity
        ∧ quantity < highEnd significand exponent

/-- The interval reaches down by half a unit at most. -/
theorem le_lowEnd (significand : Nat) (exponent : Int) :
    (4 * significand - 2) * (2 : ℚ) ^ (exponent - 2)
      ≤ format.lowEnd significand exponent := by
  have quarter : (0 : ℚ) < 2 ^ (exponent - 2) := by positivity
  unfold lowEnd
  refine mul_le_mul_of_nonneg_right ?_ quarter.le
  split <;> linarith

/-- The interval reaches down by a quarter of a unit at least. -/
theorem lowEnd_le (significand : Nat) (exponent : Int) :
    format.lowEnd significand exponent
      ≤ (4 * significand - 1) * 2 ^ (exponent - 2) := by
  have quarter : (0 : ℚ) < 2 ^ (exponent - 2) := by positivity
  unfold lowEnd
  refine mul_le_mul_of_nonneg_right ?_ quarter.le
  split <;> linarith

theorem lowEnd_eq (positive : 0 < significand) (exponent : Int) :
    format.lowEnd significand exponent =
      (4 * significand - if format.IsNarrow significand exponent then 1 else 2
          : Nat)
        * 2 ^ (exponent - 2) := by
  rw [lowEnd, Nat.cast_sub (by split <;> omega)]
  push_cast
  rfl

theorem highEnd_eq (significand : Nat) (exponent : Int) :
    highEnd significand exponent =
      (4 * significand + 2 : Nat) * 2 ^ (exponent - 2) := by
  rw [highEnd]
  push_cast
  rfl

/-- The least powers of two with more bits, in quarters of a unit. -/
theorem powers_in_quarters (exponent : Int) :
    (2 : ℚ) ^ (exponent + format.fractionBits) =
        4 * twoTo format.fractionBits * 2 ^ (exponent - 2)
      ∧ (2 : ℚ) ^ (exponent + format.fractionBits + 1) =
        8 * twoTo format.fractionBits * 2 ^ (exponent - 2) := by
  have leading :
      (2 : ℚ) ^ (exponent + format.fractionBits) =
        4 * twoTo format.fractionBits * 2 ^ (exponent - 2) := by
    rw [zpow_add₀ (by norm_num), zpow_natCast, two_zpow_eq_four_mul exponent]
    simp only [twoTo, Nat.pow_eq]
    push_cast
    ring
  refine ⟨leading, ?_⟩
  rw [zpow_add_one₀ (by norm_num), leading]
  ring

/--
A quantity in the interval around a number is counted in the unit of the number,
unless it lies below the least number of this unit.
-/
theorem isUnit_of_around
    (number : format.IsNumber significand exponent)
    (fits : significand < 2 * twoTo format.fractionBits)
    (around : format.IsAround significand exponent quantity)
    (notBelow :
      format.IsNarrow significand exponent →
        (2 : ℚ) ^ (exponent + format.fractionBits) ≤ quantity) :
    format.IsUnit quantity exponent := by
  obtain ⟨leading, next⟩ := format.powers_in_quarters exponent
  have quarter : (0 : ℚ) < 2 ^ (exponent - 2) := by positivity
  have lowest := (format.le_lowEnd significand exponent).trans around.low
  refine ⟨number.least, ?_, ?_⟩
  · have fitsCast : (significand : ℚ) + 1 ≤ 2 * twoTo format.fractionBits := by
      exact_mod_cast fits
    calc quantity ≤ (4 * significand + 2) * 2 ^ (exponent - 2) := around.high
      _ < 8 * twoTo format.fractionBits * 2 ^ (exponent - 2) := by
          refine mul_lt_mul_of_pos_right ?_ quarter
          linarith
      _ = 2 ^ (exponent + format.fractionBits + 1) := next.symm
  · rcases number.leading with least | normal
    · exact .inl least
    rcases Nat.eq_or_lt_of_le normal with start | inside
    · by_cases least : exponent = format.leastExponent
      · exact .inl least
      · have narrow : format.leastExponent < exponent :=
          lt_of_le_of_ne number.least (Ne.symm least)
        exact .inr (notBelow ⟨start.symm, narrow⟩)
    · right
      have insideCast : (twoTo format.fractionBits : ℚ) + 1 ≤ significand := by
        exact_mod_cast inside
      calc (2 : ℚ) ^ (exponent + format.fractionBits)
          = 4 * twoTo format.fractionBits * 2 ^ (exponent - 2) := leading
        _ ≤ (4 * significand - 2) * 2 ^ (exponent - 2) := by
            refine mul_le_mul_of_nonneg_right ?_ quarter.le
            linarith
        _ ≤ quantity := lowest

/-- A number with the least significand is also one of the unit before. -/
theorem place_doubled (narrow : format.IsNarrow significand exponent) :
    format.place (2 * significand) (exponent - 1)
      = format.place significand exponent := by
  obtain ⟨start, above⟩ := narrow
  obtain ⟨steps, steps_eq⟩ :
      ∃ steps, (exponent - format.leastExponent).toNat = steps + 1 :=
    ⟨(exponent - format.leastExponent).toNat - 1, by omega⟩
  have before : (exponent - 1 - format.leastExponent).toNat = steps := by
    omega
  rw [place, place, steps_eq, before, Nat.add_mul, ← start]
  omega

/--
Around a number with the least significand, but below it, a quantity is counted
in the unit before.
-/
theorem isUnit_of_narrow
    (narrow : format.IsNarrow significand exponent)
    (low : format.lowEnd significand exponent ≤ quantity)
    (below : quantity < 2 ^ (exponent + format.fractionBits)) :
    format.IsUnit quantity (exponent - 1) := by
  have quarter : (0 : ℚ) < 2 ^ (exponent - 2) := by positivity
  have significandPositive : (1 : ℚ) ≤ significand := by
    have positive := twoTo_pos format.fractionBits
    rw [← narrow.1] at positive
    exact_mod_cast positive
  have before : exponent - 1 + format.fractionBits
      = exponent + format.fractionBits - 1 := by
    omega
  have above := narrow.2
  refine ⟨by omega, ?_, .inr ?_⟩
  · rwa [before, sub_add_cancel]
  · have double := two_zpow_eq_two_mul (exponent + format.fractionBits)
    rw [(format.powers_in_quarters exponent).1, ← narrow.1] at double
    rw [lowEnd, if_pos narrow] at low
    rw [before]
    nlinarith

/-- A quantity in the interval around a number rounds to the number. -/
theorem nearest_of_around
    (number : format.IsNumber significand exponent)
    (fits : significand < 2 * twoTo format.fractionBits)
    (around : format.IsAround significand exponent quantity)
    (numeratorPositive : 0 < numerator)
    (denominatorPositive : 0 < denominator)
    (quotient : (numerator : ℚ) = quantity * denominator) :
    format.nearest numerator denominator =
      min format.infinity (format.place significand exponent) := by
  have whole := two_zpow_eq_four_mul exponent
  have quarter : (0 : ℚ) < 2 ^ (exponent - 2) := by positivity
  have lowest := format.le_lowEnd significand exponent
  have low := around.low
  have high := around.high
  have tie := around.tie
  simp only [highEnd] at high tie
  by_cases carries :
      format.IsNarrow significand exponent
        ∧ quantity < 2 ^ (exponent + format.fractionBits)
  · obtain ⟨narrow, below⟩ := carries
    have unit := format.isUnit_of_narrow narrow low below
    have half := two_zpow_half_eq exponent
    rw [lowEnd, if_pos narrow] at low
    rw [(format.powers_in_quarters exponent).1, ← narrow.1] at below
    rw [← format.place_doubled narrow]
    refine format.nearest_of_unit unit ?_ ?_ (.inl (by omega)) numeratorPositive
      denominatorPositive quotient
    · rw [half]
      push_cast
      linarith
    · rw [half]
      push_cast
      linarith
  · have unit : format.IsUnit quantity exponent :=
      format.isUnit_of_around number fits around fun narrow =>
        not_lt.mp fun below => carries ⟨narrow, below⟩
    refine format.nearest_of_unit unit ?_ ?_
      (tie.imp_right fun strict => ⟨?_, ?_⟩) numeratorPositive
      denominatorPositive quotient
    all_goals
      rw [whole]
      linarith

/-- A number is what a quantity is rounded to in units of a power of two. -/
structure IsRounded
    (quantity : ℚ)
    (significand : Nat)
    (exponent : Int) : Prop where
  near :
    |(significand : ℚ) * 2 ^ exponent - quantity| ≤ 2 ^ (exponent - 1)
  notAbove :
    ∀ whole : Nat, quantity ≤ whole * 2 ^ exponent → significand ≤ whole
  notBelow :
    ∀ whole : Nat, whole * 2 ^ exponent ≤ quantity → whole ≤ significand

/-- What a quantity rounds to: a number that is near and in no case too far. -/
theorem nearest_isRounded
    (numeratorPositive : 0 < numerator)
    (denominatorPositive : 0 < denominator)
    (quotient : (numerator : ℚ) = quantity * denominator) :
    ∃ significand exponent,
      format.IsUnit quantity exponent
        ∧ format.IsNumber significand exponent
        ∧ IsRounded quantity significand exponent
        ∧ format.nearest numerator denominator =
          min format.infinity (format.place significand exponent) := by
  obtain ⟨exponent, unit, nearest⟩ :=
    format.nearest_eq_place numeratorPositive denominatorPositive quotient
  have scaledPositive : 0 < denominator * twoTo exponent.toNat :=
    Nat.mul_pos denominatorPositive (twoTo_pos _)
  have scaled := quotient_in_units quotient exponent
  have power : (0 : ℚ) < 2 ^ exponent := by positivity
  have near := roundedQuotient_near scaledPositive scaled
  have between := roundedQuotient_between scaledPositive scaled
  generalize roundedQuotient (numerator * twoTo (-exponent).toNat)
    (denominator * twoTo exponent.toNat) = significand at *
  simp only [zpow_neg, ← div_eq_mul_inv, div_le_iff₀ power,
    le_div_iff₀ power] at near between
  have rounded : IsRounded quantity significand exponent := by
    refine ⟨?_, fun whole => (between whole).1, fun whole => (between whole).2⟩
    calc |(significand : ℚ) * 2 ^ exponent - quantity|
        = |(significand : ℚ) - quantity / 2 ^ exponent| * 2 ^ exponent := by
          rw [← abs_of_pos power, ← abs_mul, abs_of_pos power, sub_mul,
            div_mul_cancel₀ _ power.ne']
      _ ≤ 1 / 2 * 2 ^ exponent := by gcongr
      _ = 2 ^ (exponent - 1) := by
          rw [zpow_sub₀ (by norm_num)]
          ring
  have unitPower : (2 : ℚ) ^ (exponent + format.fractionBits) =
      (twoTo format.fractionBits : Nat) * 2 ^ exponent := by
    rw [add_comm, zpow_add₀ (by norm_num), zpow_natCast]
    simp only [twoTo, Nat.pow_eq]
    push_cast
    rfl
  refine ⟨significand, exponent, unit, ⟨unit.least, ?_, ?_⟩, rounded, nearest⟩
  · refine rounded.notAbove _ ?_
    calc quantity ≤ 2 ^ (exponent + format.fractionBits + 1) := unit.below.le
      _ = (2 * twoTo format.fractionBits : Nat) * 2 ^ exponent := by
          rw [zpow_add_one₀ (by norm_num), unitPower]
          push_cast
          ring
  · refine unit.reached.imp_right fun reached => rounded.notBelow _ ?_
    rwa [← unitPower]

end Nearest

end BinaryFormat

end SyntheticTable
