import SyntheticTable.Number.Layout

/-!
# Written decimals and what they are read as

The digits of a number are read back as the number, and the text of a decimal
as a decimal of the same quantity: a whole number may have gained zeros, which
its power of ten makes up for.  So no layout loses a digit, whether it writes a
power of ten or not.
-/

namespace SyntheticTable

/-! ## Digits -/

/-- Only decimal digits. -/
def AllDigits (characters : List Char) : Prop :=
  ∀ character ∈ characters, character.isDigit = true

/-- A digit differs from any character that is none. -/
theorem ne_of_isDigit
    {character : Char}
    (digit : character.isDigit = true)
    (other : Char)
    (notDigit : other.isDigit = false) :
    character ≠ other := by
  rintro rfl
  rw [digit] at notDigit
  cases notDigit

/-- Nothing, or something that is no digit, comes next. -/
def EndsDigits (characters : List Char) : Prop :=
  characters.head?.all (!Char.isDigit ·) = true

namespace AllDigits

variable {left right : List Char}

theorem append (leftDigits : AllDigits left) (rightDigits : AllDigits right) :
    AllDigits (left ++ right) := by
  intro character member
  rcases List.mem_append.mp member with inLeft | inRight
  · exact leftDigits character inLeft
  · exact rightDigits character inRight

theorem take (digits : AllDigits left) (count : Nat) :
    AllDigits (left.take count) :=
  fun character member => digits character (List.mem_of_mem_take member)

theorem drop (digits : AllDigits left) (count : Nat) :
    AllDigits (left.drop count) :=
  fun character member => digits character (List.mem_of_mem_drop member)

theorem takeWhile (digits : AllDigits left) (ends : EndsDigits right) :
    (left ++ right).takeWhile Char.isDigit = left := by
  rw [List.takeWhile_append_of_pos digits]
  cases right with
  | nil => simp
  | cons first rest =>
      have notDigit : first.isDigit = false := by simpa [EndsDigits] using ends
      simp [notDigit]

theorem dropWhile (digits : AllDigits left) (ends : EndsDigits right) :
    (left ++ right).dropWhile Char.isDigit = right := by
  rw [List.dropWhile_append_of_pos digits]
  cases right with
  | nil => simp
  | cons first rest =>
      have notDigit : first.isDigit = false := by simpa [EndsDigits] using ends
      simp [notDigit]

end AllDigits

theorem allDigits_decimalDigits (number : Nat) :
    AllDigits (decimalDigits number) :=
  fun _ member => Nat.isDigit_of_mem_toDigits (by decide) (by decide) member

theorem allDigits_replicate_zero (count : Nat) :
    AllDigits (List.replicate count '0') := by
  intro character member
  rw [List.eq_of_mem_replicate member]
  rfl

theorem decimalDigits_ne_nil (number : Nat) : decimalDigits number ≠ [] :=
  Nat.toDigits_ne_nil

/-- The value of digits is that of the standard reader of digits. -/
theorem decimalValue_eq_ofDigitChars
    {characters : List Char}
    (digits : AllDigits characters) :
    decimalValue characters = Nat.ofDigitChars 10 characters 0 := by
  unfold decimalValue valueOfDigits
  generalize 0 = before
  induction characters generalizing before with
  | nil => simp
  | cons first rest inductionHypothesis =>
      have firstDigit : decimalDigit? first = some (first.toNat - '0'.toNat) := by
        simp [decimalDigit?, digits first List.mem_cons_self]
      have restDigits : AllDigits rest :=
        fun character member => digits character (List.mem_cons_of_mem _ member)
      rw [List.filterMap_cons_some firstDigit, List.foldl_cons,
        inductionHypothesis restDigits, Nat.ofDigitChars_cons, Nat.mul_comm]

theorem decimalValue_decimalDigits (number : Nat) :
    decimalValue (decimalDigits number) = number := by
  rw [decimalValue_eq_ofDigitChars (allDigits_decimalDigits number)]
  exact Nat.ofDigitChars_ten_toDigits

theorem decimalValue_append_zeros (number zeros : Nat) :
    decimalValue (decimalDigits number ++ List.replicate zeros '0') =
      number * tenTo zeros := by
  rw [decimalValue_eq_ofDigitChars
      ((allDigits_decimalDigits number).append
        (allDigits_replicate_zero zeros)),
    Nat.ofDigitChars_append, Nat.ofDigitChars_replicate_zero]
  rw [show Nat.ofDigitChars 10 (decimalDigits number) 0 = number from
    Nat.ofDigitChars_ten_toDigits]
  exact Nat.mul_comm _ _

theorem decimalValue_zeros_append (zeros number : Nat) :
    decimalValue (List.replicate zeros '0' ++ decimalDigits number) =
      number := by
  rw [decimalValue_eq_ofDigitChars
      ((allDigits_replicate_zero zeros).append
        (allDigits_decimalDigits number)),
    Nat.ofDigitChars_append, Nat.ofDigitChars_replicate_zero, Nat.mul_zero]
  exact Nat.ofDigitChars_ten_toDigits

/-- The digits of a number are read as the number. -/
theorem readDigits_decimalDigits (number : Nat) :
    readDigits (decimalDigits number) = some number := by
  have notEmpty : (decimalDigits number).isEmpty = false := by
    simpa using decimalDigits_ne_nil number
  have digits : (decimalDigits number).all Char.isDigit = true :=
    List.all_eq_true.mpr (allDigits_decimalDigits number)
  simp [readDigits, notEmpty, digits, decimalValue_decimalDigits]

/-! ## Decimals -/

namespace Decimal

theorem readUnsigned_pointed
    {whole fraction after : List Char}
    (wholeDigits : AllDigits whole)
    (fractionDigits : AllDigits fraction)
    (ends : EndsDigits after)
    (notEmpty : whole ≠ []) :
    readUnsigned (whole ++ '.' :: (fraction ++ after)) =
      (readExponent after).map fun power : Int =>
        (decimalValue (whole ++ fraction), power - fraction.length) := by
  have pointEnds : EndsDigits ('.' :: (fraction ++ after)) := rfl
  simp [readUnsigned, wholeDigits.takeWhile pointEnds,
    wholeDigits.dropWhile pointEnds, fractionDigits.takeWhile ends,
    fractionDigits.dropWhile ends, notEmpty]

theorem readUnsigned_powered
    {whole after : List Char}
    (wholeDigits : AllDigits whole)
    (notEmpty : whole ≠ []) :
    readUnsigned (whole ++ 'e' :: after) =
      (readExponent ('e' :: after)).map fun power : Int =>
        (decimalValue whole, power) := by
  have ends : EndsDigits ('e' :: after) := rfl
  simp [readUnsigned, wholeDigits.takeWhile ends, wholeDigits.dropWhile ends,
    notEmpty]

/-- The power of ten as it is written is read as it is meant. -/
theorem readExponent_written (power : Int) :
    readExponent
        ('e' :: (if power < 0 then ['-'] else [])
          ++ decimalDigits power.natAbs) =
      some power := by
  by_cases below : power < 0
  · obtain ⟨size, rfl⟩ : ∃ size : Nat, power = -(size : Int) :=
      ⟨power.natAbs, by omega⟩
    rw [if_pos below, Int.natAbs_neg, Int.natAbs_natCast]
    simp [readExponent, splitSign, readDigits_decimalDigits]
  · obtain ⟨size, rfl⟩ : ∃ size : Nat, power = size :=
      ⟨power.natAbs, by omega⟩
    obtain ⟨first, rest, digits⟩ :=
      List.exists_cons_of_ne_nil (decimalDigits_ne_nil size)
    have firstDigit : first.isDigit = true :=
      allDigits_decimalDigits size first (by simp [digits])
    have notDash := ne_of_isDigit firstDigit '-' rfl
    have notPlus := ne_of_isDigit firstDigit '+' rfl
    have unsigned :
        splitSign (decimalDigits size) = (false, decimalDigits size) := by
      simp [digits, splitSign, notDash, notPlus]
    rw [if_neg below, Int.natAbs_natCast]
    simp [readExponent, unsigned, readDigits_decimalDigits]

end Decimal

/-! ## Layouts -/

/-- A character of a numeral without a sign in front. -/
def IsNumeralCharacter (character : Char) : Prop :=
  character.isDigit = true ∨ character ∈ ['.', 'e', '-']

/--
A text that is read as a quantity.  It starts with a digit, and signs and
letters stand only where a power of ten is written.
-/
structure Spells (text : List Char) (decimal : Decimal) : Prop where
  starts : text.head?.any Char.isDigit = true
  characters : ∀ character ∈ text, IsNumeralCharacter character
  reads :
    ∃ zeros : Nat,
      Decimal.readUnsigned text =
        some (decimal.digits * tenTo zeros, decimal.exponent - zeros)

namespace AllDigits

variable {digits : List Char}

theorem numeral
    (allDigits : AllDigits digits) :
    ∀ character ∈ digits, IsNumeralCharacter character :=
  fun character member => .inl (allDigits character member)

theorem starts
    (allDigits : AllDigits digits)
    (notEmpty : digits ≠ [])
    (after : List Char) :
    (digits ++ after).head?.any Char.isDigit = true := by
  obtain ⟨first, rest, rfl⟩ := List.exists_cons_of_ne_nil notEmpty
  exact allDigits first List.mem_cons_self

end AllDigits

namespace Spells

variable {whole fraction after : List Char} {decimal : Decimal} {power : Int}

theorem of_pointed
    (wholeDigits : AllDigits whole)
    (notEmpty : whole ≠ [])
    (fractionDigits : AllDigits fraction)
    (ends : EndsDigits after)
    (numeral : ∀ character ∈ after, IsNumeralCharacter character)
    (powerRead : Decimal.readExponent after = some power)
    (zeros : Nat)
    (value : decimalValue (whole ++ fraction) = decimal.digits * tenTo zeros)
    (place : power - fraction.length = decimal.exponent - zeros) :
    Spells (whole ++ '.' :: (fraction ++ after)) decimal where
  starts := wholeDigits.starts notEmpty _
  characters := by
    intro character member
    rcases List.mem_append.mp member with inWhole | inRest
    · exact wholeDigits.numeral character inWhole
    · rcases List.mem_cons.mp inRest with rfl | inRest
      · exact .inr (by decide)
      · rcases List.mem_append.mp inRest with inFraction | inAfter
        · exact fractionDigits.numeral character inFraction
        · exact numeral character inAfter
  reads :=
    ⟨zeros, by
      rw [Decimal.readUnsigned_pointed wholeDigits fractionDigits ends notEmpty,
        powerRead, Option.map_some, value, place]⟩

theorem of_powered
    (wholeDigits : AllDigits whole)
    (notEmpty : whole ≠ [])
    (numeral : ∀ character ∈ after, IsNumeralCharacter character)
    (powerRead : Decimal.readExponent ('e' :: after) = some decimal.exponent)
    (value : decimalValue whole = decimal.digits) :
    Spells (whole ++ 'e' :: after) decimal where
  starts := wholeDigits.starts notEmpty _
  characters := by
    intro character member
    rcases List.mem_append.mp member with inWhole | inRest
    · exact wholeDigits.numeral character inWhole
    · rcases List.mem_cons.mp inRest with rfl | inAfter
      · exact .inr (by decide)
      · exact numeral character inAfter
  reads :=
    ⟨0, by
      rw [Decimal.readUnsigned_powered wholeDigits notEmpty, powerRead]
      simp [value]⟩

end Spells

namespace NumberLayout

/-- Digits with a point among them are read as the quantity. -/
theorem spells_positional
    (layout : NumberLayout)
    (decimal : Decimal)
    (keepsPoint : layout.afterWhole = ".0") :
    Spells (layout.positional decimal) decimal := by
  have allDigits := allDigits_decimalDigits decimal.digits
  have notEmpty := decimalDigits_ne_nil decimal.digits
  have noPower : Decimal.readExponent [] = some 0 := rfl
  unfold positional
  generalize digitsEq : decimalDigits decimal.digits = digits at *
  have value : decimalValue digits = decimal.digits := by
    rw [← digitsEq, decimalValue_decimalDigits]
  by_cases whole : 0 ≤ decimal.exponent
  · -- One more zero is read after the point.
    have spelled :
        Spells
          (digits ++ List.replicate decimal.exponent.toNat '0'
            ++ '.' :: (['0'] ++ []))
          decimal := by
      refine .of_pointed (allDigits.append (allDigits_replicate_zero _))
        (by simp [notEmpty]) (allDigits_replicate_zero 1) rfl (by simp)
        noPower (decimal.exponent.toNat + 1) ?_ ?_
      · rw [← digitsEq, List.append_assoc, ← List.replicate_succ',
          decimalValue_append_zeros]
      · simp only [List.length_singleton]
        omega
    simpa [whole, keepsPoint] using spelled
  · generalize placesEq : (-decimal.exponent).toNat = places
    by_cases among : places < digits.length
    · have spelled :
          Spells
            (digits.take (digits.length - places)
              ++ '.' :: (digits.drop (digits.length - places) ++ []))
            decimal := by
        refine .of_pointed (allDigits.take _) ?_ (allDigits.drop _) rfl
          (by simp) noPower 0 ?_ ?_
        · simp only [ne_eq, List.take_eq_nil_iff, not_or]
          exact ⟨by omega, notEmpty⟩
        · rw [List.take_append_drop, value]
          simp
        · rw [List.length_drop]
          omega
      simpa [whole, among] using spelled
    · have spelled :
          Spells
            (['0'] ++ '.' :: ((List.replicate (places - digits.length) '0'
              ++ digits) ++ []))
            decimal := by
        refine .of_pointed (allDigits_replicate_zero 1) (by simp)
          ((allDigits_replicate_zero _).append allDigits) rfl (by simp)
          noPower 0 ?_ ?_
        · rw [← digitsEq, ← List.append_assoc,
            show ['0'] = List.replicate 1 '0' from rfl,
            List.replicate_append_replicate, decimalValue_zeros_append]
          simp
        · rw [List.length_append, List.length_replicate]
          omega
      simpa [whole, among] using spelled

/-- One digit, the others and a power of ten are read as the quantity. -/
theorem spells_scientific (decimal : Decimal) :
    Spells
      (scientific decimal
        (decimal.exponent + (decimalDigits decimal.digits).length - 1))
      decimal := by
  have allDigits := allDigits_decimalDigits decimal.digits
  have notEmpty := decimalDigits_ne_nil decimal.digits
  generalize leadingEq :
    decimal.exponent + (decimalDigits decimal.digits).length - 1 = leading
  have powerRead := Decimal.readExponent_written leading
  have numeral :
      ∀ character ∈
        'e' :: (if leading < 0 then ['-'] else [])
          ++ decimalDigits leading.natAbs,
        IsNumeralCharacter character := by
    intro character member
    rcases List.mem_append.mp member with mark | digit
    · right
      split at mark <;> simp_all
    · exact (allDigits_decimalDigits _).numeral character digit
  unfold scientific
  have value := decimalValue_decimalDigits decimal.digits
  generalize decimalDigits decimal.digits = digits at *
  obtain ⟨first, rest, rfl⟩ := List.exists_cons_of_ne_nil notEmpty
  cases rest with
  | nil =>
      have spelled :
          Spells
            ([first] ++ 'e' :: ((if leading < 0 then ['-'] else [])
              ++ decimalDigits leading.natAbs))
            decimal := by
        have place : leading = decimal.exponent := by
          simp only [List.length_singleton] at leadingEq
          omega
        refine .of_powered allDigits notEmpty ?_ ?_ value
        · exact fun character member =>
            numeral character (List.mem_cons_of_mem _ member)
        · rw [← place]
          exact powerRead
      simpa using spelled
  | cons second others =>
      have spelled :
          Spells
            ([first] ++ '.' :: ((second :: others) ++
              ('e' :: (if leading < 0 then ['-'] else [])
                ++ decimalDigits leading.natAbs)))
            decimal := by
        refine .of_pointed (allDigits.take 1) (by simp) (allDigits.drop 1) rfl
          numeral powerRead 0 ?_ ?_
        · simpa using value
        · simp only [List.length_cons] at leadingEq ⊢
          omega
      simpa using spelled

/--
The text of a decimal is its sign and a text that is read as its quantity,
wherever the layout begins to write a power of ten.
-/
theorem decimalText_spells
    (layout : NumberLayout)
    (decimal : Decimal)
    (keepsPoint : layout.afterWhole = ".0") :
    ∃ unsigned,
      (layout.decimalText decimal).toList =
          (if decimal.negative then ['-'] else []) ++ unsigned
        ∧ Spells unsigned decimal := by
  have spelled (isPositional : Bool) :
      Spells
        (if isPositional then layout.positional decimal
          else scientific decimal
            (decimal.exponent + (decimalDigits decimal.digits).length - 1))
        decimal := by
    cases isPositional with
    | true => exact layout.spells_positional decimal keepsPoint
    | false => exact spells_scientific decimal
  exact ⟨_, by rw [decimalText, String.toList_ofList], spelled _⟩

end NumberLayout

end SyntheticTable
