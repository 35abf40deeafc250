import SyntheticTable.Random.Geometric
import SyntheticTable.Random.Normal
import SyntheticTable.Temporal
import SyntheticTable.Value

/-!
# Generators

How values of one type are drawn.  A generator is made first, which is refused
where its distribution is.

Numbers are normal around zero, with a deviation that grows with the width of
the type, and are cut to its range; unsigned ones take the distance from zero.
Timestamps lie some years before the reference instant and durations last some
years.  Decimals have no distribution yet: they are zero and nothing is read.
-/

namespace SyntheticTable

/-- The draw of a generator, unless its distribution is refused. -/
abbrev Generator (α : Type) := Except DistributionFault (Draw α)

/-- A fair coin. -/
def boolGenerator : Generator Bool :=
  (Bernoulli.ofChance (.ofQuotient 1 2)).map Bernoulli.draw

/-! ## Numbers -/

/-- A type of numbers that columns can hold. -/
class NumericValue (α : Type) where
  /-- How many bits a number takes. -/
  bits : Nat
  isUnsigned : Bool
  lowest : Float
  highest : Float
  /-- The number nearest to one in the range, or without its fraction. -/
  ofFloat : Float → α

/-- The largest number of 32 bits. -/
def largestSingle : Float := (Float32.ofBits 0x7F7F_FFFF).toFloat

/-- The largest number of 64 bits. -/
def largestDouble : Float := Float.ofBits 0x7FEF_FFFF_FFFF_FFFF

instance : NumericValue Int8 := ⟨8, false, -128, 127, Float.toInt8⟩

instance : NumericValue Int16 := ⟨16, false, -32768, 32767, Float.toInt16⟩

instance : NumericValue Int32 :=
  ⟨32, false, -2147483648, 2147483647, Float.toInt32⟩

instance : NumericValue Int64 :=
  ⟨64, false, -9223372036854775808, 9223372036854775808, Float.toInt64⟩

instance : NumericValue UInt8 := ⟨8, true, 0, 255, Float.toUInt8⟩

instance : NumericValue UInt16 := ⟨16, true, 0, 65535, Float.toUInt16⟩

instance : NumericValue UInt32 := ⟨32, true, 0, 4294967295, Float.toUInt32⟩

instance : NumericValue UInt64 :=
  ⟨64, true, 0, 18446744073709551616, Float.toUInt64⟩

instance : NumericValue Single where
  bits := 32
  isUnsigned := false
  lowest := -largestSingle
  highest := largestSingle
  ofFloat number := ⟨number.toFloat32.toBits⟩

instance : NumericValue Double where
  bits := 64
  isUnsigned := false
  lowest := -largestDouble
  highest := largestDouble
  ofFloat number := ⟨number.toBits⟩

/--
The standard deviation for a width in bits, `2 ^ (bits / 4)`; infinity where
that power lies beyond the largest number.
-/
def standardDeviation (bits : Nat) : Double where
  bits := .ofNat (min (1023 + bits / 4) 2047 * twoTo 52)

/-- A number moved into a range. -/
def clamped (low high number : Float) : Float :=
  if number < low then low else if high < number then high else number

/-- A normal sample as a number of a type. -/
def NumericValue.ofSample (α : Type) [NumericValue α] (sample : Float) : α :=
  let sample := if isUnsigned α then sample.abs else sample
  ofFloat (clamped (lowest α) (highest α) sample)

/-- Normal numbers of a type. -/
def numericGenerator (α : Type) [NumericValue α] : Generator α :=
  (Normal.ofDeviation (standardDeviation (NumericValue.bits α))).map
    fun normal => NumericValue.ofSample α <$> normal.draw

/-! ## Instants, spans and decimals -/

/-- A span whose seconds are geometric, with a uniform part of a second. -/
def drawSpan (seconds : Geometric) : Draw Int64 := do
  let seconds ← seconds.draw
  let part ← Draw.longBelow 1_000_000_001
  return spanOf seconds (.ofNat part)

/-- How many seconds a year of 365 days has. -/
def secondsPerYear : Nat :=
  365 * 24 * 60 * 60

/-- Instants that lie within some years before the reference instant. -/
def timestampGenerator (unit : TimeUnit) : Generator Int64 :=
  (Geometric.ofChance (.ofQuotient 1 (2 * secondsPerYear))).map
    fun seconds => unit.ticksBefore <$> drawSpan seconds

/-- Spans of some years. -/
def durationGenerator (unit : TimeUnit) : Generator Int64 :=
  (Geometric.ofChance (.ofQuotient 1 secondsPerYear)).map
    fun seconds => unit.ticks <$> drawSpan seconds

/-- Zero in place of decimals. -/
def decimalGenerator (α : Type) [OfNat α 0] : Generator α :=
  .ok (return 0)

end SyntheticTable
