import SyntheticTable.Random.Distribution
import SyntheticTable.Random.Uniform

/-!
# Geometric draws

The number of failures before the first success of a rare event.  With a group
of `2 ^ k` attempts chosen so large that it fails at most half of the time, the
number of groups that fail is drawn first, and then the place in a group.
-/

namespace SyntheticTable

/-- A power with a whole exponent, by repeated squaring. -/
def wholePower (base : Float) (exponent : Nat) (product : Float) : Float :=
  let product := if exponent % 2 = 1 then product * base else product
  if more : exponent / 2 = 0 then
    product
  else
    wholePower (base * base) (exponent / 2) product
termination_by exponent
decreasing_by omega

/--
The least logarithm of a group size, from the given one on, for which a group
fails at most half of the time, with that chance.  At most 64 are tried.
-/
def groupSize : (tries : Nat) → (logarithm : Nat) → Float → Nat × Float
  | 0, logarithm, failure => (logarithm, failure)
  | tries + 1, logarithm, failure =>
      if 0.5 < failure then
        groupSize tries (logarithm + 1) (failure * failure)
      else
        (logarithm, failure)

namespace Draw

/-- How many fractions in a row lie below a chance; at most so many. -/
def failuresWithin (failure : Float) :
    (limit : Nat) → (count : UInt64) → Draw UInt64
  | 0, count => pure count
  | limit + 1, count => do
      if (← fraction) < failure then
        failuresWithin failure limit (count + 1)
      else
        return count

end Draw

/-- A geometric distribution. -/
structure Geometric where
  /-- The chance of a success. -/
  success : Double

namespace Geometric

/-- The distribution of a chance, which has to be a probability. -/
def ofChance (success : Double) : Except DistributionFault Geometric :=
  if success.isProbability then .ok ⟨success⟩ else .error .geometric

/-- Draws the number of failures before the first success. -/
def draw (geometric : Geometric) : Draw UInt64 := do
  let remaining := 1 - geometric.success.toFloat
  let (logarithm, failure) := groupSize 64 1 (remaining * remaining)
  let groups ← Draw.failuresWithin failure Draw.trialLimit 0
  let place ←
    Draw.accepted
      (do
        let place := (← Draw.long) &&& ((1 <<< UInt64.ofNat logarithm) - 1)
        if (← Draw.fraction) < wholePower remaining place.toNat 1 then
          return some place
        else
          return none)
      0
  return (groups <<< UInt64.ofNat logarithm) + place

end Geometric

end SyntheticTable
