import SyntheticTable.Number.Decimal

/-!
# Numerals

Texts that are numbers from the first to the last character, as they are given
on a command line: whole numbers below a bound, and numbers of 32 bits.
-/

namespace SyntheticTable.Numeral

/-- Reads a whole number below a bound; a plus sign may stand before it. -/
def unsigned? (bound : Nat) (text : String) : Option Nat :=
  let digits :=
    match text.toList with
    | '+' :: rest => rest
    | rest => rest
  (readDigits digits).filter (· < bound)

/--
Reads a whole number below a bound; either sign may stand before it, but only
zero is still in reach after a minus.
-/
def signed? (bound : Nat) (text : String) : Option Nat :=
  let (negative, digits) := splitSign text.toList
  (readDigits digits).filter fun number =>
    number < bound && (number = 0 || !negative)

/-- Reads a word of 32 bits. -/
def word? (text : String) : Option UInt32 :=
  (signed? (twoTo 32) text).map .ofNat

/-- Reads a word of 64 bits. -/
def long? (text : String) : Option UInt64 :=
  (unsigned? (twoTo 64) text).map .ofNat

/-- The magnitude that a word stands for, in letters of either case. -/
def wordMagnitude? (characters : List Char) : Option Nat :=
  let word := String.ofList (characters.map Char.toLower)
  if word = "inf" ∨ word = "infinity" then some BinaryFormat.single.infinity
  else if word = "nan" then some BinaryFormat.single.quietNotANumber
  else none

/--
Reads a number of 32 bits: a decimal, rounded once, or a word for infinity or
for no number.
-/
def single? (text : String) : Option Single :=
  let (negative, rest) := splitSign text.toList
  match wordMagnitude? rest with
  | some magnitude =>
      some ⟨.ofNat (BinaryFormat.single.withSign negative magnitude)⟩
  | none =>
      (Decimal.readUnsigned rest).map fun (digits, exponent) =>
        Decimal.toSingle { negative, digits, exponent }

end SyntheticTable.Numeral
