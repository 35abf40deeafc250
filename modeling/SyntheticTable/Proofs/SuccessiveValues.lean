import SyntheticTable.Proofs.ChangedCells
import SyntheticTable.Proofs.NullChance

/-!
# Columns of successive values

A single value and a column are drawn on two paths.  Where a column has no
nulls, no pool and no runs, nothing but values is drawn for it, so the paths
agree: the column holds the values that are drawn one at a time from the same
engine, and either way the engine is left at the same place.
-/

namespace SyntheticTable

theorem DrawPlan.of_successive
    {params : ColumnParams}
    (noNulls : params.nullFrequency.isZero = true)
    (noPool : params.cardinality = 0)
    (noRuns : params.averageRunLength ≤ 1)
    (rows : Nat) :
    DrawPlan.of params rows = .ok ⟨.never, ⟨none⟩, 0⟩ := by
  rw [of_eq, NullRule.ofFrequency?_of_isZero noNulls, noPool,
    RunLengths.withAverage, if_pos noRuns]
  simp

/-- A single value is what the generator of its kind draws, and it never fails. -/
theorem SemanticType.drawValue_run (type : FixedType) :
    (SemanticType.fixed type).drawValue.run =
      (fun value => .ok ⟨type, value⟩) <$> type.draw := by
  rw [drawValue_fixed, type.generator_eq]
  rfl

/-- Where no value is null, a cell is one draw of a value, and no more is read. -/
theorem drawValueCell_never {α : Type} (value : Draw α) :
    drawValueCell value .never = some <$> value :=
  rfl

/-- Cells that all have a value are laid out as a column without nulls. -/
theorem layOutValues_of_some
    {type : FixedType}
    {drawn : DrawnRuns (Option type.Value)}
    {values : Array type.Value}
    (cells : drawn.cells = values.map some) :
    layOutValues type values.size drawn =
      ⟨.fixed type values, .allValid values.size⟩ := by
  have data : drawn.cells.map (·.getD type.defaultValue) = values := by
    rw [cells, Array.map_map]
    exact Array.map_id values
  have mask :
      NullBitmap.ofTest values.size
          (fun row => (drawn.cells.getD row none).isSome) =
        .allValid values.size := by
    symm
    refine NullBitmap.eq_ofTest (NullBitmap.rows_allValid values.size) ?_
    intro row inside
    rw [NullBitmap.bit_allValid inside, cells, Array.getD_eq_getD_getElem?,
      Array.getElem?_map, Array.getElem?_eq_getElem inside]
    rfl
  show Column.mk _ _ = _
  rw [data, mask]

/--
Without nulls, without a pool and without runs, a column holds the values that
single draws give one after the other, all of them valid, and leaves the engine
where they leave it.  Only buffers that cannot be addressed prevent it, and
then nothing is drawn.
-/
theorem buildColumn_holds_successive_values
    (type : FixedType)
    (rows : Nat)
    (params : ColumnParams)
    (engine : Engine)
    (noNulls : params.nullFrequency.isZero = true)
    (noPool : params.cardinality = 0)
    (noRuns : params.averageRunLength ≤ 1) :
    ∃ values last,
      (Draw.repeated rows (SemanticType.fixed type).drawValue.run).run engine =
          (values.map fun value => .ok ⟨type, value⟩, last) ∧
        values.size = rows ∧
          (buildColumn (.fixed type) rows params).run.run engine =
            if valuesFit type rows then
              (.ok ⟨.fixed type values, .allValid rows⟩, last)
            else
              (.error .bufferTooLarge, engine) := by
  rcases valuesDrawn : (Draw.repeated rows type.draw).run engine with
    ⟨values, last⟩
  have size : values.size = rows := by
    have counted := Draw.size_repeated type.draw rows engine
    rw [valuesDrawn] at counted
    exact counted
  refine ⟨values, last, ?_, size, ?_⟩
  · rw [SemanticType.drawValue_run, Draw.repeated_map_run, valuesDrawn]
  · have planned := DrawPlan.of_successive noNulls noPool noRuns rows
    have cellsDrawn :
        (Draw.repeated rows (drawValueCell type.draw .never)).run engine =
          (values.map some, last) := by
      rw [drawValueCell_never, Draw.repeated_map_run, valuesDrawn]
    rcases
        DrawPlan.drawRuns_of_fresh ⟨.never, ⟨none⟩, 0⟩
          (drawValueCell type.draw .never) engine rfl rfl rows with
      ⟨cells, lastEqual⟩
    rw [cellsDrawn] at cells lastEqual
    have laidOut := layOutValues_of_some cells
    rw [size] at laidOut
    rw [buildColumn_fixed_run rows params engine planned, laidOut, lastEqual]

/-- Five numbers of 32 bits, where the negative zero says that none is null. -/
theorem buildColumn_holds_successive_values_five :
    ∃ values last,
      (Draw.repeated 5 (SemanticType.fixed .float32).drawValue.run).run
            (.seeded 42) =
          (values.map fun value => .ok ⟨.float32, value⟩, last) ∧
        values.size = 5 ∧
          (buildColumn (.fixed .float32) 5 ⟨⟨0x8000_0000⟩, 0, 0⟩).run.run
              (.seeded 42) =
            (.ok ⟨.fixed .float32 values, .allValid 5⟩, last) := by
  rcases
      buildColumn_holds_successive_values .float32 5 ⟨⟨0x8000_0000⟩, 0, 0⟩
        (.seeded 42) (by decide) rfl (by decide) with
    ⟨values, last, drawn, size, built⟩
  have fits : valuesFit .float32 5 = true := rfl
  rw [if_pos fits] at built
  exact ⟨values, last, drawn, size, built⟩

end SyntheticTable
