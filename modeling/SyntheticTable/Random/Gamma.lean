import SyntheticTable.Random.Distribution
import SyntheticTable.Random.Normal

/-!
# Gamma draws

A gamma number of shape four in 32-bit arithmetic: a cube of a shifted normal
number, taken or rejected by a squeeze and then by the exact test.
-/

namespace SyntheticTable

/-- A gamma distribution of shape four. -/
structure Gamma where
  scale : Single

namespace Gamma

/-- The distribution of a scale, which has to be greater than zero. -/
def ofScale (scale : Single) : Except DistributionFault Gamma :=
  if scale.isPositive then .ok ⟨scale⟩ else .error .gamma

/-- The shape that gamma numbers have here, less a third. -/
def shift : Float32 := 4 - (1 / 3 : Float).toFloat32

/-- The factor of the normal number under the cube. -/
def factor : Float32 := 1 / (9 * shift).sqrt

/-- The slope of the squeeze that decides most trials. -/
def squeeze : Float32 := (0.0331 : Float).toFloat32

/-- Draws a number. -/
def draw (gamma : Gamma) : Draw Float32 :=
  Draw.accepted
    (do
      let normal := (← Draw.standardNormal).toFloat32
      let root := 1 + factor * normal
      if root ≤ 0 then
        return none
      else
        let cube := root * root * root
        let uniform ← Draw.innerFraction32
        let square := normal * normal
        if uniform < 1 - squeeze * square * square
            || uniform.log
              < 0.5 * square + shift * (1 - cube + cube.log) then
          return some (shift * cube * gamma.scale.toFloat)
        else
          return none)
    0

end Gamma

end SyntheticTable
