import SyntheticTable.Proofs.ChangedCells
import SyntheticTable.Proofs.NullChance

/-!
# Temporal columns in two units

What is drawn for a timestamp or a duration is a number of nanoseconds, and the
unit is only the length of the ticks in which it is kept.  So columns in two
units that are drawn from the same engine describe the same instants or spans:
a tick of the coarser unit counts the whole ticks of the finer one, dropping
what is left toward zero on either side of the epoch.
-/

namespace SyntheticTable

/-! ## Ticks -/

/-- Quotients cut toward zero one after the other are cut once by the product. -/
theorem tdiv_tdiv (number : Int) (first second : Nat) :
    (number.tdiv first).tdiv second = number.tdiv (first * second : Nat) := by
  have sizes :
      ∀ size : Nat,
        ((size : Int).tdiv first).tdiv second =
          (size : Int).tdiv (first * second : Nat) := by
    intro size
    rw [← Int.ofNat_tdiv, ← Int.ofNat_tdiv, ← Int.ofNat_tdiv,
      Nat.div_div_eq_div_mul]
  rcases number.eq_nat_or_neg with ⟨size, rfl | rfl⟩
  · exact sizes size
  · rw [Int.neg_tdiv, Int.neg_tdiv, Int.neg_tdiv, sizes]

/-- The ticks of every unit can be counted in a word. -/
theorem TimeUnit.nanosPerTick_lt (unit : TimeUnit) :
    unit.nanosPerTick < 2 ^ 63 := by
  cases unit <;> decide

/-- A word is divided as its number is, unless the divisor is beyond all words. -/
theorem toInt_div_ofNat
    {divisor : Nat}
    (small : divisor < 2 ^ 63)
    (number : Int64) :
    (number / .ofNat divisor).toInt = number.toInt.tdiv divisor := by
  have value : (Int64.ofNat divisor).toInt = divisor :=
    Int64.toInt_ofNat_of_lt small
  have notNegative : Int64.ofNat divisor ≠ -1 := by
    intro equal
    rw [equal] at value
    have negative : (-1 : Int64).toInt = -1 := rfl
    omega
  rw [Int64.toInt_div_of_ne_right _ _ notNegative, value]

theorem TimeUnit.ticks_toInt (unit : TimeUnit) (nanoseconds : Int64) :
    (unit.ticks nanoseconds).toInt = nanoseconds.toInt.tdiv unit.nanosPerTick :=
  toInt_div_ofNat unit.nanosPerTick_lt nanoseconds

variable {fine coarse : TimeUnit}

/-- A tick of a finer unit in whole ticks of a coarser one. -/
def coarsened (fine coarse : TimeUnit) (tick : Int64) : Int64 :=
  tick / .ofNat (coarse.nanosPerTick / fine.nanosPerTick)

theorem coarsened_toInt (tick : Int64) :
    (coarsened fine coarse tick).toInt =
      tick.toInt.tdiv (coarse.nanosPerTick / fine.nanosPerTick : Nat) :=
  toInt_div_ofNat
    (Nat.lt_of_le_of_lt (Nat.div_le_self _ _) coarse.nanosPerTick_lt) tick

/-- Less than a day before the epoch is still day zero. -/
example : coarsened .seconds .days (-86_399) = 0 := by decide

/-- Nanoseconds in a coarser unit are those in a finer one, coarsened. -/
theorem ticks_coarser
    (divides : fine.nanosPerTick ∣ coarse.nanosPerTick)
    (nanoseconds : Int64) :
    coarse.ticks nanoseconds = coarsened fine coarse (fine.ticks nanoseconds) := by
  apply Int64.toInt_inj.1
  rw [coarsened_toInt, TimeUnit.ticks_toInt, TimeUnit.ticks_toInt, tdiv_tdiv,
    Nat.mul_div_cancel' divides]

/-! ## Columns of ticks -/

/-- What the ticks of a column count. -/
inductive TemporalKind where
  /-- The time since the epoch. -/
  | timestamp
  /-- An elapsed time. -/
  | duration
deriving DecidableEq, Repr

namespace TemporalKind

/-- The kind of a column in a unit. -/
def type : TemporalKind → TimeUnit → FixedType
  | timestamp, unit => .timestamp unit
  | duration, unit => .duration unit

/-- The data of a column of ticks. -/
def data : TemporalKind → TimeUnit → Array Int64 → ColumnData
  | timestamp, unit, ticks => .fixed (.timestamp unit) ticks
  | duration, unit, ticks => .fixed (.duration unit) ticks

end TemporalKind

theorem draw_timestamp (unit : TimeUnit) :
    (FixedType.timestamp unit).draw =
      unit.ticksBefore <$> drawSpan secondsBefore :=
  FixedType.draw_of_generator (timestampGenerator_eq unit)

theorem draw_duration (unit : TimeUnit) :
    (FixedType.duration unit).draw =
      unit.ticks <$> drawSpan secondsLasting :=
  FixedType.draw_of_generator (durationGenerator_eq unit)

theorem draw_timestamp_coarser
    (divides : fine.nanosPerTick ∣ coarse.nanosPerTick) :
    (FixedType.timestamp coarse).draw =
      coarsened fine coarse <$> (FixedType.timestamp fine).draw := by
  have coarser :
      coarse.ticksBefore = coarsened fine coarse ∘ fine.ticksBefore := by
    funext span
    exact ticks_coarser divides _
  rw [draw_timestamp, draw_timestamp, coarser, comp_map]

theorem draw_duration_coarser
    (divides : fine.nanosPerTick ∣ coarse.nanosPerTick) :
    (FixedType.duration coarse).draw =
      coarsened fine coarse <$> (FixedType.duration fine).draw := by
  have coarser : coarse.ticks = coarsened fine coarse ∘ fine.ticks := by
    funext nanoseconds
    exact ticks_coarser divides nanoseconds
  rw [draw_duration, draw_duration, coarser, comp_map]

/-- Columns of ticks in two units are built alike, the coarser ticks coarsened. -/
theorem buildColumn_coarsened
    (divides : fine.nanosPerTick ∣ coarse.nanosPerTick)
    (kind : TemporalKind)
    {rows : Nat}
    {params : ColumnParams}
    {plan : DrawPlan}
    (planned : DrawPlan.of params rows = .ok plan)
    (engine : Engine) :
    ∃ ticks mask last,
      ticks.size = rows ∧
        (buildColumn (.fixed (kind.type fine)) rows params).run.run engine =
            (if valuesFit (kind.type fine) rows then
              (.ok ⟨kind.data fine ticks, mask⟩, last)
            else
              (.error .bufferTooLarge, engine)) ∧
          (buildColumn (.fixed (kind.type coarse)) rows params).run.run engine =
            (if valuesFit (kind.type fine) rows then
              (.ok ⟨kind.data coarse (ticks.map (coarsened fine coarse)), mask⟩,
                last)
            else
              (.error .bufferTooLarge, engine)) := by
  have defaults : coarsened fine coarse 0 = 0 := by
    apply Int64.toInt_inj.1
    rw [coarsened_toInt]
    exact Int.zero_tdiv _
  cases kind with
  | timestamp =>
      exact
        buildColumn_of_changed_draw (draw_timestamp_coarser divides) defaults rfl
          planned engine
  | duration =>
      exact
        buildColumn_of_changed_draw (draw_duration_coarser divides) defaults rfl
          planned engine

/--
Two columns of timestamps, or of durations, that are drawn from the same engine
in two units have the same nulls and leave the engine at the same place, and in
every row, null or not, the tick of the coarser unit is that of the finer one
divided by how many of them it lasts, cut toward zero.
-/
theorem buildColumn_describes_same_instants
    (kind : TemporalKind)
    (rows : Nat)
    {params : ColumnParams}
    (engine : Engine)
    (chance : params.nullFrequency.IsChance)
    (divides : fine.nanosPerTick ∣ coarse.nanosPerTick) :
    ∃ fineTicks coarseTicks mask last,
      fineTicks.size = rows ∧
        coarseTicks.map Int64.toInt =
            fineTicks.map (fun tick =>
              tick.toInt.tdiv (coarse.nanosPerTick / fine.nanosPerTick : Nat)) ∧
          (buildColumn (.fixed (kind.type fine)) rows params).run.run engine =
              (if valuesFit (kind.type fine) rows then
                (.ok ⟨kind.data fine fineTicks, mask⟩, last)
              else
                (.error .bufferTooLarge, engine)) ∧
            (buildColumn (.fixed (kind.type coarse)) rows params).run.run engine =
              (if valuesFit (kind.type fine) rows then
                (.ok ⟨kind.data coarse coarseTicks, mask⟩, last)
              else
                (.error .bufferTooLarge, engine)) := by
  rcases (DrawPlan.exists_of_iff params rows).2 chance with ⟨plan, planned⟩
  rcases buildColumn_coarsened divides kind planned engine with
    ⟨ticks, mask, last, size, fineBuilt, coarseBuilt⟩
  refine
    ⟨ticks, ticks.map (coarsened fine coarse), mask, last, size, ?_, fineBuilt,
      coarseBuilt⟩
  rw [Array.map_map]
  refine congrArg (Array.map · ticks) ?_
  funext tick
  exact coarsened_toInt tick

/-- Four timestamps in milliseconds and in days, with the standard chance of nulls. -/
theorem buildColumn_describes_same_instants_four :
    ∃ fineTicks coarseTicks mask last,
      fineTicks.size = 4 ∧
        coarseTicks.map Int64.toInt =
            fineTicks.map (fun tick => tick.toInt.tdiv 86_400_000) ∧
          (buildColumn (.fixed (.timestamp .milliseconds)) 4 .standard).run.run
                (.seeded 9) =
              (.ok ⟨.fixed (.timestamp .milliseconds) fineTicks, mask⟩, last) ∧
            (buildColumn (.fixed (.timestamp .days)) 4 .standard).run.run
                (.seeded 9) =
              (.ok ⟨.fixed (.timestamp .days) coarseTicks, mask⟩, last) := by
  have chance : ColumnParams.standard.nullFrequency.IsChance :=
    (DrawPlan.exists_of_iff .standard 4).1 ⟨_, rfl⟩
  have divides : TimeUnit.milliseconds.nanosPerTick ∣ TimeUnit.days.nanosPerTick := by
    decide
  rcases
      buildColumn_describes_same_instants .timestamp 4 (.seeded 9) chance divides with
    ⟨fineTicks, coarseTicks, mask, last, size, ticksEqual, fineBuilt, coarseBuilt⟩
  have fits :
      valuesFit (TemporalKind.timestamp.type .milliseconds) 4 = true := rfl
  rw [if_pos fits] at fineBuilt coarseBuilt
  exact
    ⟨fineTicks, coarseTicks, mask, last, size, ticksEqual, fineBuilt, coarseBuilt⟩

end SyntheticTable
