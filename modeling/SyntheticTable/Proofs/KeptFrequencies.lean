import SyntheticTable.Proofs.SpecRoundTrip
import SyntheticTable.Proofs.TwiceRounded

/-!
# Null frequencies that are read back

A null frequency is written as the shortest decimal of a number of 32 bits and
read by way of 64 bits.  It comes back bit for bit, and with it the whole
specification, unless it is no number or the one number of which the decimal
lies too close to a midpoint.
-/

namespace SyntheticTable

open BinaryFormat (single double)

namespace Single

variable {number other : Single}

theorem eq_of_bits (same : number.bits.toNat = other.bits.toNat) :
    number = other :=
  congrArg Single.mk (UInt32.toNat_inj.mp same)

theorem bits_eq (number : Single) :
    number.bits.toNat =
      single.withSign number.isNegative
        (number.bits.toNat % single.signBit) := by
  have fits : number.bits.toNat < 2 * single.signBit := number.bits.toNat_lt
  exact (single.withSign_isNegative fits).symm

theorem bits_of_finite
    {significand : Nat}
    {exponent : Int}
    (finite : number.magnitude = .finite significand exponent) :
    number.bits.toNat =
      single.withSign number.isNegative (single.place significand exponent) := by
  obtain ⟨-, -, place, -⟩ := single.place_of_finite (by decide) finite
  rw [← place]
  exact number.bits_eq

theorem toSingle_toDouble_zero
    {decimal : Decimal}
    (zero : decimal.digits = 0) :
    decimal.toDouble.toSingle.bits.toNat =
      single.withSign decimal.negative 0 := by
  have nearest : decimal.nearest double = double.withSign decimal.negative 0 := by
    rw [Decimal.nearest, if_pos (.inl zero)]
  rw [Decimal.toDouble, nearest]
  cases decimal.negative with
  | true => decide +kernel
  | false => decide +kernel

/-- A finite number is read back, unless its decimal is too close to an end. -/
theorem readBack?_of_finite
    {significand : Nat}
    {exponent : Int}
    (finite : number.magnitude = .finite significand exponent)
    (regular :
      ¬(exponent = closeExponent ∧ significand = closeSignificand)) :
    number.readBack? = some number := by
  obtain ⟨isNumber, fits, -, below⟩ := single.place_of_finite (by decide) finite
  have unit : twoTo single.fractionBits = 2 ^ 23 := by decide
  rw [unit] at fits
  obtain ⟨found, read, sign, quantity⟩ := numberOf?_text_of_finite finite
  have bits :
      found.toDouble.toSingle.bits.toNat =
        single.withSign number.isNegative
          (single.place significand exponent) := by
    rcases Nat.eq_zero_or_pos significand with zero | positive
    · have digits : found.digits = 0 := by
        rw [zero, shortestDecimal, if_pos rfl] at quantity
        simpa [Decimal.quantity, zpow_ne_zero] using quantity
      have leastExponent : exponent = single.leastExponent := by
        have leading := isNumber.leading
        omega
      rw [toSingle_toDouble_zero digits, sign, zero, leastExponent]
      rfl
    · have greatest : exponent ≤ 104 := by
        have infinityEq : single.infinity = 255 * 2 ^ 23 := by decide
        have leastEq : single.leastExponent = -149 := by decide
        have leading := isNumber.leading
        rw [BinaryFormat.place, unit, infinityEq, leastEq] at below
        omega
      obtain ⟨point, power, shortest, around, near⟩ :=
        shortestDecimal_around exponent positive (by omega) .toEven
          number.isNegative
      rw [← sign]
      exact Decimal.toSingle_toDouble isNumber positive (by omega) below
        greatest (quantity.trans shortest) around near regular
  have same : found.toDouble.toSingle = number :=
    eq_of_bits (bits.trans (bits_of_finite finite).symm)
  rw [readBack?, read, Option.map_some, same]

theorem bits_of_infinite (infinite : number.magnitude = .infinite) :
    number.bits.toNat =
      single.withSign number.isNegative single.infinity := by
  have magnitude : number.bits.toNat % single.signBit = single.infinity := by
    have signEq : single.signBit = 2 ^ 31 := by decide
    have fractionBits : twoTo single.fractionBits = 2 ^ 23 := by decide
    have exponentBits : twoTo single.exponentBits = 2 ^ 8 := by decide
    have infinityEq : single.infinity = 255 * 2 ^ 23 := by decide
    have inside := Nat.mod_lt number.bits.toNat (by omega : 0 < single.signBit)
    simp only [Single.magnitude, BinaryFormat.magnitudeOf, fractionBits,
      exponentBits] at infinite
    split at infinite
    · cases infinite
    split at infinite
    · cases infinite
    split at infinite
    · omega
    · cases infinite
  rw [← magnitude]
  exact number.bits_eq

theorem readBack?_of_infinite (infinite : number.magnitude = .infinite) :
    number.readBack? = some number := by
  have bits := bits_of_infinite infinite
  cases sign : number.isNegative with
  | true =>
      rw [sign] at bits
      have same : number = ⟨0xFF80_0000⟩ := eq_of_bits bits
      rw [same]
      decide +kernel
  | false =>
      rw [sign] at bits
      have same : number = ⟨0x7F80_0000⟩ := eq_of_bits bits
      rw [same]
      decide +kernel

/-- The number `7.038531e-26` with either sign, which is read as the next one. -/
def IsMisread (number : Single) : Prop :=
  number = ⟨0x15AE_43FD⟩ ∨ number = ⟨0x95AE_43FD⟩

instance (number : Single) : Decidable number.IsMisread :=
  inferInstanceAs (Decidable (_ ∨ _))

/-- The number with the exponent and the significand of the close pair. -/
theorem isMisread_of_close
    (finite : number.magnitude = .finite closeSignificand closeExponent) :
    number.IsMisread := by
  have bits := bits_of_finite finite
  cases sign : number.isNegative with
  | true =>
      rw [sign] at bits
      exact .inr (eq_of_bits bits)
  | false =>
      rw [sign] at bits
      exact .inl (eq_of_bits bits)

/-- Which numbers are read back: all but one with either sign. -/
theorem readBack?_eq_self_iff (isNumber : number.isNotANumber = false) :
    number.readBack? = some number ↔ ¬number.IsMisread := by
  constructor
  · rintro back (rfl | rfl)
    · exact absurd back (by decide +kernel)
    · exact absurd back (by decide +kernel)
  · intro regular
    cases form : number.magnitude with
    | finite significand exponent =>
        refine readBack?_of_finite form ?_
        rintro ⟨rfl, rfl⟩
        exact regular (isMisread_of_close form)
    | infinite => exact readBack?_of_infinite form
    | notANumber => simp [isNotANumber, form] at isNumber

end Single

namespace TableSpec

/-- A written specification is read back if its null frequency is. -/
theorem ofYaml_toYaml_eq_iff (spec : TableSpec) :
    ofYaml spec.toYaml = .ok spec ↔
      spec.params.nullFrequency.readBack? = some spec.params.nullFrequency := by
  obtain ⟨frequency, back, read⟩ := exists_ofYaml_toYaml spec
  rw [read, back, Except.ok.injEq, Option.some.injEq]
  constructor
  · intro same
    exact congrArg (fun spec => spec.params.nullFrequency) same
  · intro same
    rw [same]

/--
Each number is read back bit for bit from the text under which it is written as
a null frequency, except for `7.038531e-26` with either sign, and so is each
specification with a number as its null frequency.
-/
theorem nullFrequency_kept_iff :
    (∀ number : Single,
      number.isNotANumber = false →
        (number.readBack? = some number ↔ ¬number.IsMisread))
      ∧ ∀ spec : TableSpec,
        spec.params.nullFrequency.isNotANumber = false →
          (ofYaml spec.toYaml = .ok spec ↔
            ¬spec.params.nullFrequency.IsMisread) := by
  refine ⟨fun number isNumber => Single.readBack?_eq_self_iff isNumber, ?_⟩
  intro spec isNumber
  rw [ofYaml_toYaml_eq_iff, Single.readBack?_eq_self_iff isNumber]

/-- The least number above zero, and a specification with it. -/
theorem nullFrequency_kept_iff_least :
    let spec : TableSpec :=
      { types := [.fixed .int32]
        columnCount := 1
        tableBytes := 1
        seed? := none
        params := { ColumnParams.standard with nullFrequency := ⟨1⟩ } }
    (⟨1⟩ : Single).text .yaml = "1e-45"
      ∧ (⟨1⟩ : Single).readBack? = some ⟨1⟩
      ∧ ofYaml spec.toYaml = .ok spec := by
  intro spec
  refine ⟨by decide +kernel, ?_, ?_⟩
  · exact (nullFrequency_kept_iff.1 ⟨1⟩ (by decide)).mpr (by decide)
  · exact (nullFrequency_kept_iff.2 spec (by decide)).mpr (by decide)

/--
The decimal of a number identifies it among the numbers of 32 bits, but by way
of 64 bits it is read as the next one.
-/
theorem nullFrequency_misread :
    let number : Single := ⟨0x15AE_43FD⟩
    let spec : TableSpec :=
      { types := [.fixed .int32]
        columnCount := 1
        tableBytes := 1
        seed? := none
        params := { ColumnParams.standard with nullFrequency := number } }
    number.isNotANumber = false
      ∧ number.text .yaml = "7.038531e-26"
      ∧ Decimal.toSingle ⟨false, 7038531, -32⟩ = number
      ∧ number.readBack? = some ⟨0x15AE_43FE⟩
      ∧ ofYaml spec.toYaml ≠ .ok spec := by
  refine ⟨by decide, by decide +kernel, by decide +kernel, by decide +kernel, ?_⟩
  rw [Ne, ofYaml_toYaml_eq_iff]
  decide +kernel

end TableSpec

end SyntheticTable
