import SyntheticTable.Proofs.Drawing
import SyntheticTable.Proofs.TemporalColumns

/-!
# Exact spans and instants

A span is put together in steps that each stop at the ends of the word: the
seconds are cut to the word, then multiplied, then the part of a second is
added.  Together they stop once, where the exact number of nanoseconds would
leave the word.  No such span reaches back so far from the reference instant
that the difference would leave the word as well, so instants are exact.

What is drawn for a timestamp or a duration are the seconds and the part.  The
unit only cuts their nanoseconds into ticks, so the draw leaves the engine at
the same place in every unit.
-/

namespace SyntheticTable

/-! ## Words that stop at their ends -/

/-- A number outside the word is moved to the nearer end. -/
theorem toInt_ofIntClamp (number : Int) :
    (Int64.ofIntClamp number).toInt =
      max (-2 ^ 63) (min number (2 ^ 63 - 1)) := by
  unfold Int64.ofIntClamp
  split
  · next notBelow =>
      rw [Int64.toInt_minValue] at notBelow
      split
      · next notAbove =>
          rw [Int64.toInt_maxValue] at notAbove
          rw [Int64.toInt_ofIntLE, min_eq_left notAbove, max_eq_right notBelow]
      · next above =>
          rw [Int64.toInt_maxValue, not_le] at above
          rw [Int64.toInt_maxValue, min_eq_right above.le]
          rfl
  · next below =>
      rw [Int64.toInt_minValue, not_le] at below
      rw [Int64.toInt_minValue]
      omega

/-- The most nanoseconds that a span can have. -/
def longestSpan : Nat := 2 ^ 63 - 1

/-- The nanoseconds of whole seconds and a part, as many as a span can have. -/
def exactSpan (seconds : UInt64) (part : Nat) : Nat :=
  min (seconds.toNat * 1_000_000_000 + part) longestSpan

theorem exactSpan_le (seconds : UInt64) (part : Nat) :
    exactSpan seconds part ≤ longestSpan :=
  min_le_right _ _

/--
Cutting, multiplying and adding stop where the exact sum would leave the word: the
part is not negative, so what stops at the end of the word stays there.
-/
theorem spanOf_toInt
    (seconds : UInt64)
    {part : Nat}
    (small : part ≤ 1_000_000_000) :
    (spanOf seconds (.ofNat part)).toInt = exactSpan seconds part := by
  have whole :
      (Int64.ofNat (min seconds.toNat Int64.maxValue.toInt.toNat)).toInt =
        min (seconds.toNat : Int) (2 ^ 63 - 1) := by
    have largest : Int64.maxValue.toInt.toNat = 2 ^ 63 - 1 := rfl
    rw [largest, Int64.toInt_ofNat_of_lt (by omega)]
    omega
  have partOfSecond : (Int64.ofNat part).toInt = part :=
    Int64.toInt_ofNat_of_lt (by omega)
  have second : nanosPerSecond.toInt = 1_000_000_000 := rfl
  unfold spanOf saturatingAdd saturatingMul exactSpan longestSpan
  rw [toInt_ofIntClamp, toInt_ofIntClamp, whole, partOfSecond, second]
  push_cast
  omega

theorem reference_toInt :
    (referenceSeconds * nanosPerSecond).toInt = 1_591_053_936 * 1_000_000_000 :=
  rfl

/-- The instant a span before the reference instant lies within the word. -/
theorem saturatingSub_reference_toInt
    {span : Int64}
    (forward : 0 ≤ span.toInt) :
    (saturatingSub (referenceSeconds * nanosPerSecond) span).toInt =
      1_591_053_936 * 1_000_000_000 - span.toInt := by
  have longest := span.toInt_lt
  rw [saturatingSub, toInt_ofIntClamp, reference_toInt]
  omega

namespace TimeUnit

variable
    (unit : TimeUnit)
    {span : Int64}

theorem nanosPerTick_pos : 0 < unit.nanosPerTick := by
  cases unit <;> decide

/-- An instant before the reference instant, in ticks cut toward zero. -/
theorem ticksBefore_toInt
    (forward : 0 ≤ span.toInt) :
    (unit.ticksBefore span).toInt =
      (1_591_053_936 * 1_000_000_000 - span.toInt).tdiv unit.nanosPerTick := by
  rw [ticksBefore, unit.ticks_toInt, saturatingSub_reference_toInt forward]

theorem ticksBefore_le
    (forward : 0 ≤ span.toInt) :
    (unit.ticksBefore span).toInt ≤
      (1_591_053_936 * 1_000_000_000 / unit.nanosPerTick : Nat) := by
  rw [unit.ticksBefore_toInt forward, Int.ofNat_tdiv]
  apply Int.tdiv_le_tdiv (Int.natCast_pos.2 unit.nanosPerTick_pos)
  push_cast
  exact Int.sub_le_self _ forward

/-- A number of nanoseconds that is counted is kept in as many whole ticks. -/
theorem ticks_toInt_of_nat
    {count : Nat}
    (counted : span.toInt = count) :
    (unit.ticks span).toInt = (count / unit.nanosPerTick : Nat) := by
  rw [unit.ticks_toInt, counted, Int.ofNat_tdiv]

end TimeUnit

/-! ## Spans in ticks -/

/--
The steps of a span of whole seconds and a part of a second, and its ticks
before the reference instant and by themselves, in exact numbers.
-/
structure KeptExactly (seconds : UInt64) (part : Nat) : Prop where
  span : (spanOf seconds (.ofNat part)).toInt = exactSpan seconds part
  /-- The difference from the reference instant is not cut. -/
  instant :
    (saturatingSub (referenceSeconds * nanosPerSecond)
        (spanOf seconds (.ofNat part))).toInt =
      1_591_053_936 * 1_000_000_000 - exactSpan seconds part
  timestamp :
    ∀ unit : TimeUnit,
      (unit.ticksBefore (spanOf seconds (.ofNat part))).toInt =
        (1_591_053_936 * 1_000_000_000 - exactSpan seconds part : Int).tdiv
          unit.nanosPerTick
  timestamp_le :
    ∀ unit : TimeUnit,
      (unit.ticksBefore (spanOf seconds (.ofNat part))).toInt ≤
        (1_591_053_936 * 1_000_000_000 / unit.nanosPerTick : Nat)
  duration :
    ∀ unit : TimeUnit,
      (unit.ticks (spanOf seconds (.ofNat part))).toInt =
        (exactSpan seconds part / unit.nanosPerTick : Nat)
  duration_le :
    ∀ unit : TimeUnit,
      0 ≤ (unit.ticks (spanOf seconds (.ofNat part))).toInt ∧
        (unit.ticks (spanOf seconds (.ofNat part))).toInt ≤
          (longestSpan / unit.nanosPerTick : Nat)

theorem keptExactly
    (seconds : UInt64)
    {part : Nat}
    (small : part ≤ 1_000_000_000) :
    KeptExactly seconds part := by
  have span := spanOf_toInt seconds small
  have forward : 0 ≤ (spanOf seconds (.ofNat part)).toInt := by
    rw [span]
    exact Int.natCast_nonneg _
  constructor
  case span => exact span
  case instant => rw [saturatingSub_reference_toInt forward, span]
  case timestamp =>
    intro unit
    rw [unit.ticksBefore_toInt forward, span]
  case timestamp_le =>
    intro unit
    exact unit.ticksBefore_le forward
  case duration =>
    intro unit
    exact unit.ticks_toInt_of_nat span
  case duration_le =>
    intro unit
    rw [unit.ticks_toInt_of_nat span]
    constructor
    · exact Int.natCast_nonneg _
    · apply Int.ofNat_le.2
      exact Nat.div_le_div_right (exactSpan_le seconds part)

/-! ## What is drawn -/

/-- Two draws, one after the other. -/
def Draw.both {α β : Type} (first : Draw α) (second : Draw β) : Draw (α × β) := do
  let left ← first
  let right ← second
  return (left, right)

/-- What holds of every second draw holds after any first one. -/
theorem Draw.both_property
    {α β : Type}
    {first : Draw α}
    {second : Draw β}
    (property : β → Prop)
    (secondHas : ∀ engine, property (second.run engine).1)
    (engine : Engine) :
    property ((Draw.both first second).run engine).1.2 :=
  secondHas (first.run engine).2

/-- Draws whole seconds and then a part of a second. -/
def drawParts (seconds : Geometric) : Draw (UInt64 × Nat) :=
  Draw.both seconds.draw (Draw.longBelow 1_000_000_001)

theorem drawSpan_eq (seconds : Geometric) :
    drawSpan seconds =
      (fun parts => spanOf parts.1 (.ofNat parts.2)) <$> drawParts seconds := by
  unfold drawSpan drawParts Draw.both
  simp only [map_bind, map_pure]

theorem drawParts_le (seconds : Geometric) (engine : Engine) :
    ((drawParts seconds).run engine).1.2 ≤ 1_000_000_000 := by
  refine Draw.both_property (· ≤ 1_000_000_000) ?_ engine
  intro current
  have below : ((Draw.longBelow 1_000_000_001).run current).1 < 1_000_000_001 :=
    Draw.longBelow_lt (Nat.succ_pos _) current
  omega

/-- However a span is kept in a unit, its parts and the engine left are the same. -/
theorem map_drawSpan_run
    {generator : TimeUnit → Generator Int64}
    {kept : TimeUnit → Int64 → Int64}
    {geometric : Geometric}
    (made : ∀ unit, generator unit = .ok (kept unit <$> drawSpan geometric))
    (engine : Engine) :
    ∃ seconds part last,
      part ≤ 1_000_000_000 ∧
        (drawParts geometric).run engine = ((seconds, part), last) ∧
          ∀ unit,
            ∃ draw,
              generator unit = .ok draw ∧
                draw.run engine =
                  (kept unit (spanOf seconds (.ofNat part)), last) := by
  have small := drawParts_le geometric engine
  rcases drawn : (drawParts geometric).run engine with ⟨⟨seconds, part⟩, last⟩
  rw [drawn] at small
  refine ⟨seconds, part, last, small, rfl, ?_⟩
  intro unit
  refine ⟨_, made unit, ?_⟩
  rw [drawSpan_eq, Draw.map_run, Draw.map_run, drawn]

/--
Whatever whole seconds and part of a second make up a span, it has the exact
number of nanoseconds or is the longest there is, and its instant and ticks are
exact.  In every unit there are generators of timestamps and of durations; they
draw such parts, and what is drawn and where the engine is left does not depend
on the unit.
-/
theorem temporal_draws_are_exact :
    (∀ seconds part, part ≤ 1_000_000_000 → KeptExactly seconds part) ∧
      ∀ engine,
        (∃ seconds part last,
          part ≤ 1_000_000_000 ∧
            (drawParts secondsBefore).run engine = ((seconds, part), last) ∧
              ∀ unit,
                ∃ draw,
                  timestampGenerator unit = .ok draw ∧
                    draw.run engine =
                      (unit.ticksBefore (spanOf seconds (.ofNat part)), last)) ∧
          ∃ seconds part last,
            part ≤ 1_000_000_000 ∧
              (drawParts secondsLasting).run engine = ((seconds, part), last) ∧
                ∀ unit,
                  ∃ draw,
                    durationGenerator unit = .ok draw ∧
                      draw.run engine =
                        (unit.ticks (spanOf seconds (.ofNat part)), last) := by
  constructor
  · intro seconds part small
    exact keptExactly seconds small
  · intro engine
    exact
      ⟨map_drawSpan_run timestampGenerator_eq engine,
        map_drawSpan_run durationGenerator_eq engine⟩

/-- The longest span is reached, and its instant lies 88337 days before the epoch. -/
theorem temporal_draws_are_exact_longest :
    (spanOf 18_446_744_073_709_551_615 1_000_000_000).toInt = 2 ^ 63 - 1 ∧
      (TimeUnit.ticksBefore .days
          (spanOf 18_446_744_073_709_551_615 1_000_000_000)).toInt = -88_337 ∧
        (TimeUnit.ticks .days
            (spanOf 18_446_744_073_709_551_615 1_000_000_000)).toInt =
          106_751 := by
  have kept :=
    temporal_draws_are_exact.1 18_446_744_073_709_551_615 1_000_000_000
      (Nat.le_refl _)
  have longest :
      exactSpan 18_446_744_073_709_551_615 1_000_000_000 =
        9_223_372_036_854_775_807 := by
    decide
  have timestamp := kept.timestamp .days
  have duration := kept.duration .days
  rw [longest] at timestamp duration
  exact ⟨kept.span.trans (by rw [longest]; rfl), timestamp, duration⟩

end SyntheticTable
