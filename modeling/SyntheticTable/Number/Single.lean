import SyntheticTable.Number.BinaryFormat

/-!
# Floating-point numbers as bit patterns

A number of either precision is kept as its bits.  Two numbers are the same
when their bits are, so the two zeros differ and a pattern that is no number
equals itself.
-/

namespace SyntheticTable

/-- A number of 64 bits. -/
structure Double where
  bits : UInt64
deriving DecidableEq, Repr, Inhabited

/-- A number of 32 bits. -/
structure Single where
  bits : UInt32
deriving DecidableEq, Repr, Inhabited

namespace Double

/-- Whether the sign bit is set. -/
def isNegative (number : Double) : Bool :=
  BinaryFormat.double.isNegative number.bits.toNat

/-- What the number is apart from its sign. -/
def magnitude (number : Double) : Magnitude :=
  BinaryFormat.double.magnitudeOf number.bits.toNat

/-- Whether the number is one of the two zeros. -/
def isZero (number : Double) : Bool :=
  number.bits &&& 0x7FFF_FFFF_FFFF_FFFF == 0

/-- The number of 32 bits nearest to a number of 64. -/
def toSingle (number : Double) : Single where
  bits :=
    .ofNat <|
      BinaryFormat.double.convert BinaryFormat.single number.bits.toNat

end Double

namespace Single

/-- Whether the sign bit is set. -/
def isNegative (number : Single) : Bool :=
  BinaryFormat.single.isNegative number.bits.toNat

/-- What the number is apart from its sign. -/
def magnitude (number : Single) : Magnitude :=
  BinaryFormat.single.magnitudeOf number.bits.toNat

/-- Whether the number is one of the two zeros. -/
def isZero (number : Single) : Bool :=
  number.bits &&& 0x7FFF_FFFF == 0

/-- Whether the bits stand for no number. -/
def isNotANumber (number : Single) : Bool :=
  number.magnitude = .notANumber

/--
Whether two numbers compare as equal: the two zeros do, and what is no number
equals nothing.
-/
def sameNumber (left right : Single) : Bool :=
  !left.isNotANumber && !right.isNotANumber &&
    (left.bits == right.bits || left.isZero && right.isZero)

end Single

end SyntheticTable
