import SyntheticTable.Proofs.NumberRange
import SyntheticTable.Proofs.PlainWords
import SyntheticTable.Proofs.WrittenDecimals
import SyntheticTable.SemanticType
import SyntheticTable.Yaml.Value

/-!
# Scalars as they are written

Each whole number, each number of 32 bits and each name of a kind is written
as one word.  The word of a whole number is read as the number, and that of a
number of 32 bits as a number of 64 with the quantity of the same decimal, or
as infinity or no number if that is what was written.
-/

namespace SyntheticTable

open Yaml (IsWord isWordCharacter)

/-! ## Whole numbers -/

theorem toList_toString (number : Nat) :
    (toString number).toList = decimalDigits number :=
  Nat.toList_repr

theorem isWordCharacter_of_isDigit
    {character : Char}
    (digit : character.isDigit = true) :
    isWordCharacter character = true := by
  simp [isWordCharacter, Yaml.isNameCharacter, Char.isAlphanum, digit]

theorem AllDigits.isWord
    {characters : List Char}
    (digits : AllDigits characters)
    (notEmpty : characters ≠ []) :
    IsWord characters where
  characters character member :=
    isWordCharacter_of_isDigit (digits character member)
  notEmpty := notEmpty
  notDash := by
    rintro rfl
    exact absurd (digits '-' List.mem_cons_self) (by decide)

theorem isWord_toString (number : Nat) : IsWord (toString number).toList := by
  rw [toList_toString]
  exact (allDigits_decimalDigits number).isWord (decimalDigits_ne_nil number)

/-- Only zero itself is written with a zero in front. -/
theorem decimalDigits_head?
    {number : Nat}
    (positive : 0 < number) :
    (decimalDigits number).head? ≠ some '0' := by
  induction number using Nat.strongRecOn with
  | ind number inductionHypothesis =>
      unfold decimalDigits
      by_cases small : number < 10
      · rw [Nat.toDigits_of_lt_base small]
        simp [positive.ne']
      · rw [Nat.toDigits_of_base_le (by omega) (by omega),
          List.head?_append_of_ne_nil _ Nat.toDigits_ne_nil]
        exact inductionHypothesis (number / 10) (by omega) (by omega)

/-- The digits in front of a number: zero alone, or a digit that is not zero. -/
theorem decimalDigits_cases (number : Nat) :
    decimalDigits number = ['0']
      ∨ ∃ first rest,
        decimalDigits number = first :: rest
          ∧ first.isDigit = true ∧ first ≠ '0' := by
  rcases Nat.eq_zero_or_pos number with rfl | positive
  · exact .inl (Nat.toDigits_zero 10)
  · right
    obtain ⟨first, rest, digits⟩ :=
      List.exists_cons_of_ne_nil (decimalDigits_ne_nil number)
    refine ⟨first, rest, digits, ?_, ?_⟩
    · exact allDigits_decimalDigits number first (by simp [digits])
    · have head := decimalDigits_head? positive
      simpa [digits] using head

namespace Yaml

theorem mapM_digitIn?
    {characters : List Char}
    (digits : AllDigits characters) :
    characters.mapM (digitIn? 10) =
      some (characters.filterMap decimalDigit?) := by
  induction characters with
  | nil => rfl
  | cons first rest inductionHypothesis =>
      have firstDigit := digits first List.mem_cons_self
      have value : decimalDigit? first = some (first.toNat - '0'.toNat) := by
        simp [decimalDigit?, firstDigit]
      have small : first.toNat - '0'.toNat < 10 := by
        have bound := firstDigit
        simp only [Char.isDigit, Bool.and_eq_true, decide_eq_true_eq,
          ge_iff_le, UInt32.le_iff_toNat_le] at bound
        change 48 ≤ first.toNat ∧ first.toNat ≤ 57 at bound
        change first.toNat - 48 < 10
        omega
      have read : digitIn? 10 first = some (first.toNat - '0'.toNat) := by
        simp only [digitIn?, firstDigit]
        simpa using small
      rw [List.mapM_cons, read, inductionHypothesis fun character member =>
        digits character (List.mem_cons_of_mem _ member),
        List.filterMap_cons_some value]
      rfl

theorem numberIn?_decimalDigits (number : Nat) :
    numberIn? 10 (decimalDigits number) = some number := by
  have notEmpty : (decimalDigits number).isEmpty = false := by
    simpa using decimalDigits_ne_nil number
  have value :
      valueOfDigits 10 ((decimalDigits number).filterMap decimalDigit?) =
        number :=
    decimalValue_decimalDigits number
  simp [numberIn?, notEmpty, mapM_digitIn? (allDigits_decimalDigits number),
    value]

theorem naturalOf?_toString (number : Nat) :
    naturalOf? (toString number).toList = some number := by
  have value := numberIn?_decimalDigits number
  rw [toList_toString]
  rcases decimalDigits_cases number with
    zero | ⟨first, rest, digits, isDigit, notZero⟩
  · rw [zero] at value ⊢
    simpa [naturalOf?, hasLeadingZero, splitSign, unsignedSize?] using value
  · have notPlus := ne_of_isDigit isDigit '+' rfl
    have notMinus := ne_of_isDigit isDigit '-' rfl
    rw [digits] at value ⊢
    simpa [naturalOf?, hasLeadingZero, splitSign, unsignedSize?, notPlus,
      notMinus, notZero] using value

end Yaml

/-! ## Numbers of 32 bits -/

namespace Spells

variable {unsigned : List Char} {decimal : Decimal}

theorem exists_digit
    (spells : Spells unsigned decimal) :
    ∃ first rest, unsigned = first :: rest ∧ first.isDigit = true := by
  have starts := spells.starts
  cases unsigned with
  | nil => cases starts
  | cons first rest => exact ⟨first, rest, rfl, starts⟩

theorem isWordCharacter
    (spells : Spells unsigned decimal) :
    ∀ character ∈ unsigned, Yaml.isWordCharacter character = true := by
  intro character member
  rcases spells.characters character member with digit | mark
  · exact isWordCharacter_of_isDigit digit
  · simp only [List.mem_cons, List.not_mem_nil, or_false] at mark
    rcases mark with rfl | rfl | rfl
    all_goals decide

/-- With either sign a numeral is one word. -/
theorem isWord
    (spells : Spells unsigned decimal)
    (negative : Bool) :
    IsWord ((if negative then ['-'] else []) ++ unsigned) := by
  obtain ⟨first, rest, rfl, isDigit⟩ := spells.exists_digit
  have notDash := ne_of_isDigit isDigit '-' rfl
  refine ⟨?_, by simp, ?_⟩
  · intro character member
    rcases List.mem_append.mp member with sign | inUnsigned
    · cases negative with
      | true =>
          rw [List.mem_singleton.mp sign]
          decide
      | false => cases sign
    · exact spells.isWordCharacter character inUnsigned
  · cases negative <;> simp [notDash]

/-- With either sign a numeral is read as a decimal of its quantity. -/
theorem read_eq
    (spells : Spells unsigned decimal)
    (negative : Bool) :
    ∃ found,
      Decimal.read ((if negative then ['-'] else []) ++ unsigned) = some found
        ∧ found.negative = negative
        ∧ found.quantity = decimal.quantity := by
  obtain ⟨zeros, unsignedRead⟩ := spells.reads
  obtain ⟨first, rest, rfl, isDigit⟩ := spells.exists_digit
  have notDash := ne_of_isDigit isDigit '-' rfl
  have notPlus := ne_of_isDigit isDigit '+' rfl
  have split :
      splitSign ((if negative then ['-'] else []) ++ first :: rest) =
        (negative, first :: rest) := by
    cases negative with
    | true => rfl
    | false => simp [splitSign, notDash, notPlus]
  refine ⟨_, by rw [Decimal.read, split]; simp only [unsignedRead]; rfl, rfl, ?_⟩
  simp only [Decimal.quantity, tenTo, Nat.pow_eq]
  push_cast
  rw [zpow_sub₀ (by norm_num), zpow_natCast]
  field_simp

/--
A numeral that is not too great is read as the number of 64 bits nearest to a
decimal of its quantity.
-/
theorem numberOf?_eq
    (spells : Spells unsigned decimal)
    {text : String}
    {negative : Bool}
    (written :
      text.toList = (if negative then ['-'] else []) ++ unsigned)
    {bits : Nat}
    (below : decimal.quantity < 2 ^ bits)
    (fits : bits < 1024) :
    ∃ found : Decimal,
      Yaml.numberOf? text = some found.toDouble
        ∧ found.negative = negative
        ∧ found.quantity = decimal.quantity := by
  obtain ⟨found, read, sign, quantity⟩ := spells.read_eq negative
  refine ⟨found, ?_, sign, quantity⟩
  obtain ⟨significand, exponent, finite⟩ :=
    Double.magnitude_toDouble (quantity ▸ below) fits
  obtain ⟨first, rest, rfl, isDigit⟩ := spells.exists_digit
  have notDash := ne_of_isDigit isDigit '-' rfl
  have notPlus := ne_of_isDigit isDigit '+' rfl
  have notPoint := ne_of_isDigit isDigit '.' rfl
  have isNumber : [".nan", ".NaN", ".NAN"].contains text = false := by
    cases negative <;> simp [← String.toList_inj, written, notPoint]
  unfold Yaml.numberOf?
  rw [isNumber, written, read]
  cases negative with
  | true =>
      simp [← String.toList_inj, notPoint, notDash, notPlus, Option.filter,
        finite]
  | false =>
      simp [← String.toList_inj, notPoint, notDash, notPlus, Option.filter,
        finite]

end Spells

namespace Single

/-- The text of a finite number is a sign and a numeral for its decimal. -/
theorem text_of_finite
    {number : Single}
    {significand : Nat}
    {exponent : Int}
    (finite : number.magnitude = .finite significand exponent) :
    ∃ unsigned,
      (number.text .yaml).toList =
          (if number.isNegative then ['-'] else []) ++ unsigned
        ∧ Spells unsigned
          (shortestDecimal .single .toEven number.isNegative significand
            exponent) := by
  obtain ⟨unsigned, written, spells⟩ :=
    NumberLayout.yaml.decimalText_spells
      (shortestDecimal .single .toEven number.isNegative significand exponent)
      rfl
  have sign :
      (shortestDecimal .single .toEven number.isNegative significand
        exponent).negative = number.isNegative := by
    unfold shortestDecimal
    split <;> rfl
  refine ⟨unsigned, ?_, spells⟩
  rw [← sign, ← written, Single.text, finite]
  rfl

/--
The text of a finite number is read as the number of 64 bits nearest to its
shortest decimal.
-/
theorem numberOf?_text_of_finite
    {number : Single}
    {significand : Nat}
    {exponent : Int}
    (finite : number.magnitude = .finite significand exponent) :
    ∃ found : Decimal,
      Yaml.numberOf? (number.text .yaml) = some found.toDouble
        ∧ found.negative = number.isNegative
        ∧ found.quantity =
          (shortestDecimal .single .toEven number.isNegative significand
            exponent).quantity := by
  obtain ⟨unsigned, written, spells⟩ := text_of_finite finite
  have small := shortestDecimal_lt finite .toEven number.isNegative
  exact spells.numberOf?_eq written small (by omega)

theorem isWord_text (number : Single) : IsWord (number.text .yaml).toList := by
  cases form : number.magnitude with
  | finite significand exponent =>
      obtain ⟨unsigned, written, spells⟩ := text_of_finite form
      rw [written]
      exact spells.isWord number.isNegative
  | infinite =>
      rw [Single.text, form]
      cases number.isNegative with
      | true => decide
      | false => decide
  | notANumber =>
      have written : number.text .yaml = ".nan" := by
        rw [Single.text, form]
        rfl
      rw [written]
      decide

theorem numberOf?_text (number : Single) :
    ∃ double, Yaml.numberOf? (number.text .yaml) = some double := by
  cases form : number.magnitude with
  | finite significand exponent =>
      obtain ⟨found, read, -⟩ := numberOf?_text_of_finite form
      exact ⟨found.toDouble, read⟩
  | infinite =>
      rw [Single.text, form]
      cases number.isNegative with
      | true => exact ⟨_, rfl⟩
      | false => exact ⟨_, rfl⟩
  | notANumber =>
      have written : number.text .yaml = ".nan" := by
        rw [Single.text, form]
        rfl
      exact ⟨_, by rw [written]; rfl⟩

end Single

/-! ## Names of kinds -/

namespace SemanticType

theorem isWord_name (type : SemanticType) : IsWord type.name.toList := by
  have known : ∀ type ∈ all, IsWord type.name.toList := by decide +kernel
  exact known type type.mem_all

end SemanticType

end SyntheticTable
