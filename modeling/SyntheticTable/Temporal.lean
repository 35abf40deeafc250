import SyntheticTable.SemanticType

/-!
# Spans and instants

Spans of time are counted in nanoseconds and instants in nanoseconds since the
Unix epoch, both in signed words of 64 bits.  Arithmetic that would leave the
word stops at its end.  A column keeps whole ticks of its unit; what is left of
a tick is dropped toward zero.
-/

namespace SyntheticTable

/-- A sum that stops at the ends of the word. -/
def saturatingAdd (left right : Int64) : Int64 :=
  .ofIntClamp (left.toInt + right.toInt)

/-- A difference that stops at the ends of the word. -/
def saturatingSub (left right : Int64) : Int64 :=
  .ofIntClamp (left.toInt - right.toInt)

/-- A product that stops at the ends of the word. -/
def saturatingMul (left right : Int64) : Int64 :=
  .ofIntClamp (left.toInt * right.toInt)

/-- How many nanoseconds a second has. -/
def nanosPerSecond : Int64 := 1_000_000_000

/-- The instant before which all timestamps lie, in seconds. -/
def referenceSeconds : Int64 := 1_591_053_936

/-- Whole seconds and a part of a second as a span. -/
def spanOf (seconds : UInt64) (part : Int64) : Int64 :=
  let whole : Int64 := .ofNat (min seconds.toNat Int64.maxValue.toInt.toNat)
  saturatingAdd (saturatingMul whole nanosPerSecond) part

namespace TimeUnit

/-- How many whole ticks of the unit lie in a number of nanoseconds. -/
def ticks (unit : TimeUnit) (nanoseconds : Int64) : Int64 :=
  nanoseconds / .ofNat unit.nanosPerTick

/-- The instant that lies a span before the reference instant, in ticks. -/
def ticksBefore (unit : TimeUnit) (span : Int64) : Int64 :=
  unit.ticks (saturatingSub (referenceSeconds * nanosPerSecond) span)

end TimeUnit

end SyntheticTable
