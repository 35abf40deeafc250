import SyntheticTable.Number.Single

/-!
# Decimal numbers

A decimal is a sign and an exact quantity `digits · 10 ^ exponent`.  It is
read from digits with an optional point and an optional power of ten, and
rounds to a binary number by the rule of `BinaryFormat.nearest`.
-/

namespace SyntheticTable

/-- The number `± digits · 10 ^ exponent`. -/
structure Decimal where
  negative : Bool
  digits : Nat
  exponent : Int
deriving DecidableEq, Repr

/-- The decimal digits of a number, without a leading zero. -/
def decimalDigits (number : Nat) : List Char :=
  Nat.toDigits 10 number

/-- The value of a sequence of digits in a base. -/
def valueOfDigits (base : Nat) (digits : List Nat) : Nat :=
  digits.foldl (fun value digit => value * base + digit) 0

/-- The value of a decimal digit. -/
def decimalDigit? (character : Char) : Option Nat :=
  if character.isDigit then some (character.toNat - '0'.toNat) else none

/-- The value of a sequence of decimal digits; other characters are ignored. -/
def decimalValue (characters : List Char) : Nat :=
  valueOfDigits 10 (characters.filterMap decimalDigit?)

/-- The whole number that a non-empty sequence of decimal digits denotes. -/
def readDigits (characters : List Char) : Option Nat :=
  if characters.isEmpty || !characters.all Char.isDigit then none
  else some (decimalValue characters)

/-- A sign, where there is one, and the characters after it. -/
def splitSign : List Char → Bool × List Char
  | '-' :: rest => (true, rest)
  | '+' :: rest => (false, rest)
  | rest => (false, rest)

namespace Decimal

/-- The power of ten at the end of a numeral, zero where there is none. -/
def readExponent : List Char → Option Int
  | [] => some 0
  | mark :: rest =>
      if mark = 'e' || mark = 'E' then
        let (negative, digits) := splitSign rest
        (readDigits digits).map fun size =>
          if negative then -(size : Int) else size
      else
        none

/--
Reads digits with an optional point among or around them, followed by an
optional power of ten.  At least one digit stands before the power.
-/
def readUnsigned (characters : List Char) : Option (Nat × Int) :=
  let whole := characters.takeWhile Char.isDigit
  let afterWhole := characters.dropWhile Char.isDigit
  let (fraction, afterFraction) :=
    match afterWhole with
    | '.' :: rest => (rest.takeWhile Char.isDigit, rest.dropWhile Char.isDigit)
    | rest => ([], rest)
  if whole.isEmpty && fraction.isEmpty then
    none
  else
    (readExponent afterFraction).map fun power =>
      (decimalValue (whole ++ fraction), power - fraction.length)

/-- Reads a numeral with an optional sign. -/
def read (characters : List Char) : Option Decimal :=
  let (negative, rest) := splitSign characters
  (readUnsigned rest).map fun (digits, exponent) =>
    { negative, digits, exponent }

/--
The pattern nearest to a decimal.  Quantities that are out of reach of the
format by their order alone are not computed: with `n` digits a number lies
below `10 ^ (n + exponent)` and, unless it is zero, not below a tenth of it.
-/
def nearest (format : BinaryFormat) (decimal : Decimal) : Nat :=
  let order : Int := (decimalDigits decimal.digits).length + decimal.exponent
  format.withSign decimal.negative <|
    if decimal.digits = 0 ∨ order < format.leastExponent then
      0
    else if twoTo (format.exponentBits - 1) < order then
      format.infinity
    else
      format.nearest (decimal.digits * tenTo decimal.exponent.toNat)
        (tenTo (-decimal.exponent).toNat)

/-- The number of 64 bits nearest to a decimal. -/
def toDouble (decimal : Decimal) : Double :=
  ⟨.ofNat (nearest .double decimal)⟩

/-- The number of 32 bits nearest to a decimal. -/
def toSingle (decimal : Decimal) : Single :=
  ⟨.ofNat (nearest .single decimal)⟩

end Decimal

end SyntheticTable
