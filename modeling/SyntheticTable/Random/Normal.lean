import SyntheticTable.Random.Distribution
import SyntheticTable.Random.NormalLayers
import SyntheticTable.Random.Uniform

/-!
# Normal draws

A standard normal number by the ziggurat method: a layer and a place in it are
read from one word of 64 bits.  A place left of the next edge is taken at once,
one in the lowest layer beyond it is replaced by a draw from the tail, and any
other is taken if it lies under the curve.
-/

namespace SyntheticTable

namespace Draw

/-- A number beyond the start of the tail, with the sign of another number. -/
def normalTail (sign : Float) : Draw Float :=
  accepted
    (do
      let first ← innerFraction
      let second ← innerFraction
      let distance := first.log / NormalLayers.tailStart
      let bound := second.log
      if -2 * bound < distance * distance then
        return none
      else if sign < 0 then
        return some (distance - NormalLayers.tailStart)
      else
        return some (NormalLayers.tailStart - distance))
    0

/-- A standard normal number. -/
def standardNormal : Draw Float :=
  accepted
    (do
      let bits ← long
      let layer := (bits &&& 255).toNat
      let place := Float.ofBits ((bits >>> 12) ||| 0x4000000000000000) - 3
      let result := place * NormalLayers.edge layer
      if result.abs < NormalLayers.edge (layer + 1) then
        return some result
      else if layer = 0 then
        return some (← normalTail place)
      else
        let height := NormalLayers.height layer
        let nextHeight := NormalLayers.height (layer + 1)
        if nextHeight + (height - nextHeight) * (← fraction)
            < (-result * result / 2).exp then
          return some result
        else
          return none)
    0

end Draw

/-- A normal distribution around zero. -/
structure Normal where
  deviation : Double

namespace Normal

/-- The distribution with a standard deviation, which has to be finite. -/
def ofDeviation (deviation : Double) : Except DistributionFault Normal :=
  if deviation.isFinite then .ok ⟨deviation⟩ else .error .normal

/-- Draws a number. -/
def draw (normal : Normal) : Draw Float :=
  return 0 + normal.deviation.toFloat * (← Draw.standardNormal)

end Normal

end SyntheticTable
