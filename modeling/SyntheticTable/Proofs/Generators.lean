import SyntheticTable.Build.Column
import SyntheticTable.Proofs.Failure

/-!
# Generators of the kinds

Every distribution is asked for with possible parameters, so every generator is
made, and the plan of a shape fails over nothing but its chance of nulls.

A kind has one generator.  Single values and columns choose theirs each in a way
of their own, and they choose the same.
-/

namespace SyntheticTable

/-! ## Quotients that are rounded -/

theorem roundedQuotient_pos
    {numerator denominator : Nat}
    (positive : 0 < denominator)
    (least : denominator ≤ numerator) :
    0 < roundedQuotient numerator denominator := by
  have whole : 0 < numerator / denominator := Nat.div_pos least positive
  unfold roundedQuotient
  dsimp only
  split
  · exact whole
  · split <;> omega

namespace BinaryFormat

variable
    (format : BinaryFormat)
    {numerator denominator : Nat}

theorem nearest_le_infinity :
    format.nearest numerator denominator ≤ format.infinity := by
  unfold nearest
  split
  · exact Nat.zero_le _
  · exact Nat.min_le_left _ _

/-- A quotient that is not below the least number is not rounded to zero. -/
theorem nearest_pos
    (positive : 0 < denominator)
    (bounded : 0 < format.infinity)
    (least :
      denominator * twoTo format.leastExponent.toNat
        ≤ numerator * twoTo (-format.leastExponent).toNat) :
    0 < format.nearest numerator denominator := by
  have unit : 0 < denominator * twoTo format.leastExponent.toNat :=
    Nat.mul_pos positive (Nat.pow_pos (by decide))
  have notZero : numerator ≠ 0 := by
    rintro rfl
    omega
  rw [nearest, if_neg notZero]
  refine Nat.lt_min.mpr ⟨bounded, ?_⟩
  generalize leadingBinaryExponent numerator denominator - format.fractionBits
    = exponent
  by_cases small : exponent ≤ format.leastExponent
  · rw [Int.max_eq_left small]
    exact Nat.add_pos_right _ (roundedQuotient_pos unit least)
  · have above : 0 < (max format.leastExponent exponent
        - format.leastExponent).toNat := by
      omega
    exact Nat.add_pos_left (Nat.mul_pos above (Nat.pow_pos (by decide))) _

end BinaryFormat

/-! ## Distributions that are made -/

/-- A coin of even chances, in steps of `2 ^ -64`. -/
def fairCoin : Bernoulli := ⟨some 0x8000_0000_0000_0000⟩

/-- The seconds by which an instant lies before the reference instant. -/
def secondsBefore : Geometric := ⟨.ofQuotient 1 (2 * secondsPerYear)⟩

/-- The seconds that a duration lasts. -/
def secondsLasting : Geometric := ⟨.ofQuotient 1 secondsPerYear⟩

/-- The lengths of texts. -/
def textLengths : Poisson := ⟨.ofQuotient averageStringLength 1⟩

theorem ofChance_fairCoin :
    Bernoulli.ofChance (.ofQuotient 1 2) = .ok fairCoin :=
  rfl

theorem ofChance_secondsBefore :
    Geometric.ofChance secondsBefore.success = .ok secondsBefore :=
  if_pos (by decide +kernel)

theorem ofChance_secondsLasting :
    Geometric.ofChance secondsLasting.success = .ok secondsLasting :=
  if_pos (by decide +kernel)

theorem ofMean_textLengths :
    Poisson.ofMean (.ofQuotient averageStringLength 1) = .ok textLengths :=
  if_pos (by decide +kernel)

namespace RunLengths

/-- The lengths of runs with a mean. -/
def withAverage (average : UInt32) : RunLengths :=
  ⟨if average ≤ 1 then none else some ⟨scaleOf average⟩⟩

theorem isPositive_scaleOf
    {average : UInt32}
    (repeated : 0 < average) :
    (scaleOf average).isPositive = true := by
  have counted : 0 < average.toNat := UInt32.lt_iff_toNat_lt.mp repeated
  have positive : 0 < BinaryFormat.single.nearest average.toNat 4 := by
    refine BinaryFormat.nearest_pos _ (by decide) (by decide) ?_
    show 4 * 1 ≤ average.toNat * 2 ^ 149
    omega
  have capped : BinaryFormat.single.nearest average.toNat 4 ≤ 0x7F80_0000 :=
    BinaryFormat.nearest_le_infinity _
  have kept :
      (UInt32.ofNat (BinaryFormat.single.nearest average.toNat 4)).toNat
        = BinaryFormat.single.nearest average.toNat 4 :=
    UInt32.toNat_ofNat_of_lt' (Nat.lt_of_le_of_lt capped (by decide))
  simp only [scaleOf, Single.ofQuotient, Single.isPositive, Bool.and_eq_true,
    decide_eq_true_eq, UInt32.lt_iff_toNat_lt, UInt32.le_iff_toNat_le, kept]
  exact ⟨positive, capped⟩

/-- Whatever the mean, the lengths of runs can be drawn. -/
theorem ofAverage_eq (average : UInt32) :
    ofAverage average = .ok (withAverage average) := by
  unfold ofAverage withAverage
  by_cases single : average ≤ 1
  · rw [if_pos single, if_pos single]
  · have repeated : 0 < average :=
      UInt32.lt_trans (by decide) (UInt32.not_le.mp single)
    rw [if_neg single, if_neg single, Gamma.ofScale,
      if_pos (isPositive_scaleOf repeated)]
    rfl

end RunLengths

/-- The plan of a shape, which fails over the chance of nulls alone. -/
theorem DrawPlan.of_eq (params : ColumnParams) (rows : Nat) :
    DrawPlan.of params rows =
      match NullRule.ofFrequency? params.nullFrequency with
      | none => .error (.invalidNullFrequency params.nullFrequency)
      | some nulls =>
          .ok
            ⟨nulls, .withAverage params.averageRunLength,
              min params.cardinality.toNat rows⟩ := by
  cases ruled : NullRule.ofFrequency? params.nullFrequency <;>
    simp only [DrawPlan.of, RunLengths.ofAverage_eq, ruled]

/-- A shape has a plan if its null frequency has a rule, and then this one. -/
theorem DrawPlan.of_eq_ok_iff
    {params : ColumnParams}
    {rows : Nat}
    {plan : DrawPlan} :
    DrawPlan.of params rows = .ok plan ↔
      ∃ nulls,
        NullRule.ofFrequency? params.nullFrequency = some nulls ∧
          plan =
            ⟨nulls, .withAverage params.averageRunLength,
              min params.cardinality.toNat rows⟩ := by
  rw [of_eq]
  cases NullRule.ofFrequency? params.nullFrequency with
  | none => simp
  | some nulls => simp [eq_comm]

/-! ## Generators that are made -/

theorem boolGenerator_eq : boolGenerator = .ok fairCoin.draw := by
  rw [boolGenerator, ofChance_fairCoin, map_ok]

theorem numericGenerator_eq
    {α : Type}
    [NumericValue α]
    (moderate : (standardDeviation (NumericValue.bits α)).isFinite = true) :
    numericGenerator α =
      .ok
        (NumericValue.ofSample α
          <$> (Normal.mk (standardDeviation (NumericValue.bits α))).draw) := by
  rw [numericGenerator, Normal.ofDeviation, if_pos moderate]
  rfl

theorem timestampGenerator_eq (unit : TimeUnit) :
    timestampGenerator unit
      = .ok (unit.ticksBefore <$> drawSpan secondsBefore) := by
  show (Geometric.ofChance secondsBefore.success).map _ = _
  rw [ofChance_secondsBefore, map_ok]

theorem durationGenerator_eq (unit : TimeUnit) :
    durationGenerator unit = .ok (unit.ticks <$> drawSpan secondsLasting) := by
  show (Geometric.ofChance secondsLasting.success).map _ = _
  rw [ofChance_secondsLasting, map_ok]

namespace FixedType

/-- The generator of a kind. -/
def generator : (type : FixedType) → Generator type.Value
  | bool => boolGenerator
  | int8 => numericGenerator Int8
  | int16 => numericGenerator Int16
  | int32 => numericGenerator Int32
  | int64 => numericGenerator Int64
  | uint8 => numericGenerator UInt8
  | uint16 => numericGenerator UInt16
  | uint32 => numericGenerator UInt32
  | uint64 => numericGenerator UInt64
  | float32 => numericGenerator Single
  | float64 => numericGenerator Double
  | timestamp unit => timestampGenerator unit
  | duration unit => durationGenerator unit
  | decimal32 => decimalGenerator Int32
  | decimal64 => decimalGenerator Int64

/-- The generator of every kind is made. -/
theorem exists_generator_eq (type : FixedType) :
    ∃ draw, type.generator = .ok draw := by
  cases type with
  | bool => exact ⟨_, boolGenerator_eq⟩
  | timestamp unit => exact ⟨_, timestampGenerator_eq unit⟩
  | duration unit => exact ⟨_, durationGenerator_eq unit⟩
  | decimal32 => exact ⟨_, rfl⟩
  | decimal64 => exact ⟨_, rfl⟩
  | _ => exact ⟨_, numericGenerator_eq (by decide +kernel)⟩

/-- What the generator of a kind draws. -/
def draw (type : FixedType) : Draw type.Value :=
  match type.generator with
  | .ok draw => draw
  | .error _ => return type.defaultValue

theorem draw_of_generator
    {type : FixedType}
    {draw : Draw type.Value}
    (made : type.generator = .ok draw) :
    type.draw = draw := by
  rw [FixedType.draw, made]

theorem generator_eq (type : FixedType) : type.generator = .ok type.draw := by
  obtain ⟨draw, made⟩ := type.exists_generator_eq
  rw [draw_of_generator made, made]

end FixedType

/-! ## Two ways of choosing a generator -/

/-- A single value is drawn with the generator of its kind. -/
theorem SemanticType.drawValue_fixed (type : FixedType) :
    (SemanticType.fixed type).drawValue = drawTyped type type.generator := by
  cases type <;> rfl

/-- A column is built with the generator of its kind. -/
theorem buildColumn_fixed
    (type : FixedType)
    (rows : Nat)
    (params : ColumnParams) :
    buildColumn (.fixed type) rows params
      = buildValues type type.generator rows params := by
  cases type <;> rfl

end SyntheticTable
