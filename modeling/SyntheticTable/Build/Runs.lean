import SyntheticTable.Build.Error
import SyntheticTable.Random.Gamma

/-!
# Drawn runs

The rows of a column are drawn in two phases.  First a pool of cells is drawn,
as many as the cardinality asks for but never more than there are rows.  Then
the rows are filled run by run: the cell of a run is picked from the pool, or
drawn afresh if the pool is empty, and its length is drawn and cut to the rows
that remain.

What a cell is, and how cells are laid out in a column, is left open.
-/

namespace SyntheticTable

/-- Where the cell of a run comes from. -/
inductive Pick (α : Type) where
  /-- The cell at a place in the pool. -/
  | pooled (place : Nat)
  /-- A cell of its own. -/
  | fresh (cell : α)

/-- Equal rows that were drawn together. -/
structure Run (α : Type) where
  pick : Pick α
  length : Nat

/-- A pool of cells and the runs that fill the rows. -/
structure DrawnRuns (α : Type) where
  pool : Array α
  runs : Array (Run α)

namespace DrawnRuns

variable {α : Type}

/-- The cell of a run, unless it points outside the pool. -/
def cell? (drawn : DrawnRuns α) : Pick α → Option α
  | .pooled place => drawn.pool[place]?
  | .fresh cell => some cell

/-- The cells of all rows, in row order. -/
def cells (drawn : DrawnRuns α) : Array α :=
  drawn.runs.flatMap fun run =>
    match drawn.cell? run.pick with
    | some cell => Array.replicate run.length cell
    | none => #[]

/-- The lengths of the runs. -/
def lengths (drawn : DrawnRuns α) : List Nat :=
  drawn.runs.toList.map Run.length

end DrawnRuns

/-- How the lengths of runs are drawn; without a distribution all are one. -/
structure RunLengths where
  gamma? : Option Gamma

namespace RunLengths

/--
The scale for a mean length, which is a quarter of it.  Whether the mean or its
quarter is rounded to 32 bits makes no difference.
-/
def scaleOf (average : UInt32) : Single :=
  .ofQuotient average.toNat 4

/-- The lengths with a mean. -/
def ofAverage (average : UInt32) : Except DistributionFault RunLengths :=
  if average ≤ 1 then
    .ok ⟨none⟩
  else
    return ⟨some (← Gamma.ofScale (scaleOf average))⟩

/-- Draws a length before it is cut to the rows that remain. -/
def draw (lengths : RunLengths) : Draw Nat :=
  match lengths.gamma? with
  | some gamma => return (← gamma.draw).round.toUInt64.toNat
  | none => return 1

end RunLengths

/--
Draws the runs that fill the remaining rows, put after the given ones.  Each
takes at least one row and at most all that remain.
-/
def drawRunsInto
    {α : Type}
    (pick : Draw (Pick α))
    (length : Draw Nat) :
    (remaining : Nat) → Array (Run α) → Draw (Array (Run α))
  | 0, runs => return runs
  | remaining + 1, runs => do
      let picked ← pick
      let drawnLength ← length
      let cut := max 1 (min drawnLength (remaining + 1))
      drawRunsInto pick length (remaining + 1 - cut)
        (runs.push ⟨picked, cut⟩)
termination_by remaining => remaining
decreasing_by omega

/-- What the shape of a column means for its draws. -/
structure DrawPlan where
  nulls : NullRule
  runLengths : RunLengths
  poolSize : Nat

namespace DrawPlan

/-- The plan of a shape for a number of rows. -/
def of (params : ColumnParams) (rows : Nat) : Except BuildError DrawPlan :=
  match NullRule.ofFrequency? params.nullFrequency with
  | none => .error (.invalidNullFrequency params.nullFrequency)
  | some nulls =>
      match RunLengths.ofAverage params.averageRunLength with
      | .error fault => .error (.invalidDistribution fault)
      | .ok runLengths =>
          .ok
            { nulls
              runLengths
              poolSize := min params.cardinality.toNat rows }

/-- Draws a pool and the runs that fill a number of rows. -/
def drawRuns
    {α : Type}
    (plan : DrawPlan)
    (rows : Nat)
    (cell : Draw α) :
    Draw (DrawnRuns α) := do
  let pool ← Draw.repeated plan.poolSize cell
  let pick : Draw (Pick α) :=
    if plan.poolSize = 0 then return .fresh (← cell)
    else return .pooled (← Draw.longBelow plan.poolSize)
  let runs ←
    drawRunsInto pick plan.runLengths.draw rows #[]
  return ⟨pool, runs⟩

end DrawPlan

end SyntheticTable
