import SyntheticTable.Number.Layout
import SyntheticTable.Random.Uniform

/-!
# Column parameters

What shapes a column apart from its kind: how often a value is null, how many
different values there are, and how long equal values stand together.
-/

namespace SyntheticTable

/-- The shape that is asked of a column. -/
structure ColumnParams where
  /-- The chance that a fresh value is null. -/
  nullFrequency : Single
  /-- How many values are drawn to pick from; with zero each is fresh. -/
  cardinality : UInt64
  /-- The mean length of a run of repeated rows; up to one there are no runs. -/
  averageRunLength : UInt32
deriving DecidableEq, Repr

namespace ColumnParams

/-- The shape where nothing else is asked: one value in a hundred is null. -/
def standard : ColumnParams where
  nullFrequency := ⟨0x3C23_D70A⟩
  cardinality := 1000
  averageRunLength := 4

end ColumnParams

/--
How fresh values are made null.  A chance `f` is kept as the least number of
steps of `2 ^ -24` that is not below it, because validity is decided by a draw
of such steps.
-/
inductive NullRule where
  /-- No value is null, and nothing is read to decide it. -/
  | never
  /-- Values whose draw lies below the threshold are null. -/
  | below (threshold : Nat)
deriving DecidableEq, Repr

namespace NullRule

/-- The rule of a chance, if it is a number from zero to one. -/
def ofFrequency? (frequency : Single) : Option NullRule :=
  match frequency.magnitude with
  | .finite significand exponent =>
      let steps := significand * twoTo 24 * twoTo exponent.toNat
      let unit := twoTo (-exponent).toNat
      if significand = 0 then some .never
      else if frequency.isNegative || twoTo 24 * unit < steps then none
      else some (.below ((steps + (unit - 1)) / unit))
  | _ => none

/-- Draws whether a value is valid. -/
def drawValid : NullRule → Draw Bool
  | never => return true
  | below threshold => return decide (threshold ≤ (← Draw.steps24))

end NullRule

end SyntheticTable
