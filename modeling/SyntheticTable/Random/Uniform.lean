import SyntheticTable.Number.Power
import SyntheticTable.Random.Engine

/-!
# Uniform draws

Whole numbers below a bound, and fractions of the unit interval.
-/

namespace SyntheticTable

/--
The number below a bound to which a word of some width is mapped, unless the
word is rejected.  The word is scaled by the bound; words whose low half lies
beyond the zone are rejected, so that every number is hit equally often.
-/
def scaledBelow? (width bound word : Nat) : Option Nat :=
  let zone := twoTo width - 1 - (twoTo width - bound) % bound
  let product := word * bound
  if product % twoTo width ≤ zone then some (product / twoTo width) else none

/-- A word that fits its width is mapped below the bound. -/
theorem scaledBelow?_lt
    {width bound word result : Nat}
    (positive : 0 < bound)
    (small : word < twoTo width)
    (accepted : scaledBelow? width bound word = some result) :
    result < bound := by
  simp only [scaledBelow?] at accepted
  split at accepted
  · cases accepted
    exact Nat.div_lt_of_lt_mul (Nat.mul_lt_mul_of_pos_right small positive)
  · cases accepted

namespace Draw

/-- A number below a bound, from words of 64 bits. -/
def longBelow (bound : Nat) : Draw Nat :=
  accepted (return scaledBelow? 64 bound (← long).toNat) 0

/-- A number below a bound, from words of 32 bits. -/
def wordBelow (bound : Nat) : Draw Nat :=
  accepted (return scaledBelow? 32 bound (← word).toNat) 0

/-- A whole number of steps of `2 ^ -24` in the unit interval, one excluded. -/
def steps24 : Draw Nat :=
  return (← word).toNat >>> 8

/-- A fraction of the unit interval, one excluded. -/
def fraction : Draw Float :=
  return ((← long) >>> 11).toFloat / 9007199254740992

/-- A fraction of the unit interval, both ends excluded. -/
def innerFraction : Draw Float :=
  return Float.ofBits (((← long) >>> 12) ||| 0x3FF0000000000000)
    - Float.ofBits 0x3FEFFFFFFFFFFFFF

/-- A fraction of the unit interval in 32 bits, both ends excluded. -/
def innerFraction32 : Draw Float32 :=
  return Float32.ofBits (((← word) >>> 9) ||| 0x3F800000)
    - Float32.ofBits 0x3F7FFFFF

end Draw

end SyntheticTable
