import SyntheticTable.Number.Power

/-!
# Binary floating-point formats

A format has a sign bit, an exponent field and a fraction field.  Numbers are
handled as exact quantities `significand · 2 ^ exponent`, and bit patterns as
natural numbers; nothing here depends on the arithmetic of the machine.

A pattern without its sign bit is called a magnitude.  Magnitudes are ordered
like the numbers they stand for, so rounding can carry from one exponent into
the next by plain addition.
-/

namespace SyntheticTable

/-- The field widths of a binary format. -/
structure BinaryFormat where
  fractionBits : Nat
  exponentBits : Nat
deriving DecidableEq, Repr

/-- What a magnitude stands for. -/
inductive Magnitude where
  /-- The number `significand · 2 ^ exponent`. -/
  | finite (significand : Nat) (exponent : Int)
  | infinite
  | notANumber
deriving DecidableEq, Repr

/-- The quotient rounded to a whole number, a half to the even neighbour. -/
def roundedQuotient (numerator denominator : Nat) : Nat :=
  let quotient := numerator / denominator
  let doubledRest := 2 * (numerator % denominator)
  if doubledRest < denominator then quotient
  else if denominator < doubledRest then quotient + 1
  else quotient + quotient % 2

/--
The exponent of the leading binary digit of a positive quotient: the greatest
`e` with `2 ^ e ≤ numerator / denominator`.
-/
def leadingBinaryExponent (numerator denominator : Nat) : Int :=
  let estimate : Int := numerator.log2 - denominator.log2
  if denominator * twoTo estimate.toNat ≤ numerator * twoTo (-estimate).toNat then
    estimate
  else
    estimate - 1

namespace BinaryFormat

/-- The format of 32 bits. -/
def single : BinaryFormat := ⟨23, 8⟩

/-- The format of 64 bits. -/
def double : BinaryFormat := ⟨52, 11⟩

/-- The exponent of the unit in which the smallest numbers are counted. -/
def leastExponent (format : BinaryFormat) : Int :=
  2 - twoTo (format.exponentBits - 1) - format.fractionBits

/-- The magnitude of infinity. -/
def infinity (format : BinaryFormat) : Nat :=
  (twoTo format.exponentBits - 1) * twoTo format.fractionBits

/-- The magnitude that stands for no number when one has to be chosen. -/
def quietNotANumber (format : BinaryFormat) : Nat :=
  format.infinity + twoTo (format.fractionBits - 1)

/-- The value of the sign bit. -/
def signBit (format : BinaryFormat) : Nat :=
  twoTo (format.exponentBits + format.fractionBits)

/-- Whether a pattern has its sign bit set. -/
def isNegative (format : BinaryFormat) (pattern : Nat) : Bool :=
  decide (format.signBit ≤ pattern)

/-- The pattern of a sign and a magnitude. -/
def withSign
    (format : BinaryFormat)
    (negative : Bool)
    (magnitude : Nat) :
    Nat :=
  if negative then format.signBit + magnitude else magnitude

/-- What a pattern stands for apart from its sign. -/
def magnitudeOf (format : BinaryFormat) (pattern : Nat) : Magnitude :=
  let magnitude := pattern % format.signBit
  let field := magnitude / twoTo format.fractionBits
  let fraction := magnitude % twoTo format.fractionBits
  if field = 0 then
    .finite fraction format.leastExponent
  else if field < twoTo format.exponentBits - 1 then
    .finite (twoTo format.fractionBits + fraction)
      (format.leastExponent + (field - 1 : Nat))
  else if fraction = 0 then
    .infinite
  else
    .notANumber

/--
The magnitude nearest to a quotient, a tie going to the even one.  A quotient
beyond the largest number rounds to infinity.
-/
def nearest (format : BinaryFormat) (numerator denominator : Nat) : Nat :=
  if numerator = 0 then
    0
  else
    let exponent :=
      max format.leastExponent
        (leadingBinaryExponent numerator denominator - format.fractionBits)
    let significand :=
      roundedQuotient (numerator * twoTo (-exponent).toNat)
        (denominator * twoTo exponent.toNat)
    min format.infinity
      ((exponent - format.leastExponent).toNat * twoTo format.fractionBits
        + significand)

/-- The pattern of another format that is nearest to a pattern of this one. -/
def convert (source target : BinaryFormat) (pattern : Nat) : Nat :=
  target.withSign (source.isNegative pattern) <|
    match source.magnitudeOf pattern with
    | .finite significand exponent =>
        target.nearest (significand * twoTo exponent.toNat)
          (twoTo (-exponent).toNat)
    | .infinite => target.infinity
    | .notANumber => target.quietNotANumber

end BinaryFormat

end SyntheticTable
