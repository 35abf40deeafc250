import SyntheticTable.Number.Single
import SyntheticTable.Random.Engine

/-!
# Distributions

A distribution is made from its parameters before anything is drawn from it,
and is refused where the parameters are impossible.  Parameters are exact bit
patterns, so that what is refused does not depend on the arithmetic of the
machine.
-/

namespace SyntheticTable

namespace Double

/-- The number nearest to a quotient of whole numbers. -/
def ofQuotient (numerator denominator : Nat) : Double where
  bits := .ofNat (BinaryFormat.double.nearest numerator denominator)

/-- The number one. -/
def one : Double := ⟨0x3FF0_0000_0000_0000⟩

/-- Whether the number is neither infinite nor no number at all. -/
def isFinite (number : Double) : Bool :=
  match number.magnitude with
  | .finite _ _ => true
  | _ => false

/-- Whether the number is greater than zero. -/
def isPositive (number : Double) : Bool :=
  0 < number.bits && number.bits ≤ 0x7FF0_0000_0000_0000

/-- Whether the number lies between zero and one, both included. -/
def isProbability (number : Double) : Bool :=
  number.isZero || number.bits ≤ one.bits

/-- The number in the arithmetic of the machine. -/
def toFloat (number : Double) : Float := Float.ofBits number.bits

end Double

namespace Single

/-- The number nearest to a quotient of whole numbers. -/
def ofQuotient (numerator denominator : Nat) : Single where
  bits := .ofNat (BinaryFormat.single.nearest numerator denominator)

/-- Whether the number is greater than zero. -/
def isPositive (number : Single) : Bool :=
  0 < number.bits && number.bits ≤ 0x7F80_0000

/-- The number in the arithmetic of the machine. -/
def toFloat (number : Single) : Float32 := Float32.ofBits number.bits

end Single

/-- The distribution whose parameters were refused. -/
inductive DistributionFault where
  | bernoulli
  | normal
  | geometric
  | gamma
  | poisson
deriving DecidableEq, Repr

/-- The name of the distribution; its own wording of the reason is left out. -/
def DistributionFault.name : DistributionFault → String
  | bernoulli => "bernoulli"
  | normal => "normal"
  | geometric => "geometric"
  | gamma => "gamma"
  | poisson => "poisson"

/-- A biased coin. -/
structure Bernoulli where
  /-- Words below the threshold are successes; without one all words are. -/
  threshold? : Option UInt64

namespace Bernoulli

/-- The coin of a chance, which is kept in steps of `2 ^ -64`. -/
def ofChance (chance : Double) : Except DistributionFault Bernoulli :=
  if chance = .one then .ok ⟨none⟩
  else if chance.isProbability then
    match chance.magnitude with
    | .finite significand exponent =>
        let steps := significand * twoTo 64 * twoTo exponent.toNat
        .ok ⟨some (.ofNat (steps / twoTo (-exponent).toNat))⟩
    | _ => .error .bernoulli
  else .error .bernoulli

/-- Tosses the coin. -/
def draw (coin : Bernoulli) : Draw Bool :=
  match coin.threshold? with
  | some threshold => return decide ((← Draw.long) < threshold)
  | none => return true

end Bernoulli

end SyntheticTable
