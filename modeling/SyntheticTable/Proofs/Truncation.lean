import SyntheticTable.Proofs.BuiltColumn

/-!
# Truncated columns

A column does not depend on how many rows follow: with fewer rows, from the
same engine, it is the first rows of the longer column.  The last run may be
cut short, but what is drawn for it does not change by that.

The pool must not be cut, so there have to be as many rows as the cardinality
asks for.
-/

namespace SyntheticTable

/-- The first records of a buffer. -/
def ColumnData.firstRecords : ColumnData → Nat → ColumnData
  | .fixed type values, rows => .fixed type (values.take rows)
  | .string chars offsets, rows =>
      .string (chars.take (offsets.getD rows 0).toInt.toNat)
        (offsets.take (rows + 1))

/-- The first rows of a column. -/
def Column.firstRows (column : Column) (rows : Nat) : Column where
  data := column.data.firstRecords rows
  mask := .ofTest rows column.mask.bit

/-! ## Laying out fewer cells -/

theorem layOutValues_firstRows
    {type : FixedType}
    {rows more : Nat}
    {short long : DrawnRuns (Option type.Value)}
    (fewer : rows ≤ more)
    (cellsEqual : short.cells.toList = long.cells.toList.take rows) :
    layOutValues type rows short =
      (layOutValues type more long).firstRows rows := by
  have cells : short.cells = long.cells.take rows := by
    apply Array.toList_inj.1
    simp [cellsEqual]
  have values :
      short.cells.map (·.getD type.defaultValue) =
        (long.cells.map (·.getD type.defaultValue)).take rows := by
    rw [cells]
    simp
  have mask :
      NullBitmap.ofTest rows (fun row => (short.cells.getD row none).isSome) =
        .ofTest rows
          (NullBitmap.ofTest more fun row =>
            (long.cells.getD row none).isSome).bit := by
    refine NullBitmap.eq_ofTest (NullBitmap.rows_ofTest _ _) ?_
    intro row inside
    have cell : short.cells[row]? = long.cells[row]? := by
      rw [← Array.getElem?_toList, cellsEqual, List.getElem?_take_of_lt inside,
        Array.getElem?_toList]
    rw [NullBitmap.bit_ofTest _ inside,
      NullBitmap.bit_ofTest _ (Nat.lt_of_lt_of_le inside fewer),
      Array.getD_eq_getD_getElem?, Array.getD_eq_getD_getElem?, cell]
  unfold layOutValues Column.firstRows ColumnData.firstRecords
  simp only [values, mask]

theorem take_textBefore (cells : List TextCell) (place : Nat) :
    (textOf cells).take (textBefore cells place) = textOf (cells.take place) := by
  have split := congrArg textOf (List.take_append_drop place cells)
  rw [textOf_append] at split
  rw [← split]
  exact List.take_left

theorem StringColumn.offsets_ofCells_take
    {rows more : Nat}
    {cells : List TextCell}
    (complete : cells.length = more)
    (fewer : rows ≤ more) :
    (ofCells rows (cells.take rows)).offsets =
      (ofCells more cells).offsets.take (rows + 1) := by
  have places : (cells.take rows).length = rows := by
    rw [List.length_take, complete, Nat.min_eq_left fewer]
  apply Array.toList_inj.1
  show (List.range ((cells.take rows).length + 1)).map _ = _
  rw [Array.take_eq_extract, Array.toList_extract, List.extract_eq_take_drop,
    places]
  show _ = (((List.range (cells.length + 1)).map _).drop 0).take _
  rw [List.drop_zero, ← List.map_take, List.take_range, complete]
  rw [show min (rows + 1 - 0) (more + 1) = rows + 1 by omega]
  refine List.map_congr_left ?_
  intro place member
  have inside := List.mem_range.1 member
  rw [textBefore, textBefore, List.take_take, Nat.min_eq_left (by omega)]

theorem StringColumn.ofCells_firstRows
    {rows more : Nat}
    {cells : List TextCell}
    (fits : TextFits cells)
    (complete : cells.length = more)
    (fewer : rows ≤ more) :
    (ofCells rows (cells.take rows)).toColumn =
      (ofCells more cells).toColumn.firstRows rows := by
  have chars :
      (ofCells rows (cells.take rows)).chars =
        (ofCells more cells).chars.take ((ofCells more cells).offset rows) := by
    rw [offset_ofCells fits (complete ▸ fewer)]
    apply Array.toList_inj.1
    show textOf (cells.take rows) = _
    rw [← take_textBefore]
    simp [ofCells]
  have mask :
      (ofCells rows (cells.take rows)).mask =
        .ofTest rows (ofCells more cells).mask.bit := by
    refine NullBitmap.eq_ofTest (NullBitmap.rows_ofTest _ _) ?_
    intro row inside
    have inLong : row < cells.length := by omega
    have found := List.getElem?_eq_getElem inLong
    rw [bit_ofCells (by omega) found]
    exact bit_ofCells inside ((List.getElem?_take_of_lt inside).trans found)
  unfold toColumn Column.firstRows ColumnData.firstRecords
  rw [chars, offsets_ofCells_take complete fewer, mask]
  rfl

/-! ## Drawing fewer rows -/

/-- As long as the pool is not cut, the plan does not depend on the rows. -/
theorem DrawPlan.of_eq_of_le
    {params : ColumnParams}
    {rows more : Nat}
    (pooled : params.cardinality.toNat ≤ rows)
    (fewer : rows ≤ more) :
    DrawPlan.of params rows = DrawPlan.of params more := by
  rw [DrawPlan.of_eq, DrawPlan.of_eq, Nat.min_eq_left pooled,
    Nat.min_eq_left (Nat.le_trans pooled fewer)]

theorem valuesFit_of_le
    {type : FixedType}
    {rows more : Nat}
    (fewer : rows ≤ more)
    (fit : valuesFit type more = true) :
    valuesFit type rows = true := by
  have less := Nat.mul_le_mul_right type.width fewer
  rw [valuesFit, decide_eq_true_iff] at fit ⊢
  exact Nat.le_trans less fit

theorem stringsFit_of_le
    {rows more : Nat}
    (fewer : rows ≤ more)
    (fit : stringsFit more = true) :
    stringsFit rows = true := by
  have less := Nat.mul_le_mul_right averageStringLength fewer
  simp only [stringsFit, Bool.and_eq_true, decide_eq_true_iff] at fit ⊢
  omega

section Building

variable
    {type : SemanticType}
    {rows more : Nat}
    {params : ColumnParams}
    {engine : Engine}
    {column : Column}

/-- With fewer rows, the column is the first rows of the longer one. -/
theorem buildColumn_eq_firstRows
    (fewer : rows ≤ more)
    (pooled : params.cardinality.toNat ≤ rows)
    (built : ((buildColumn type more params).run.run engine).1 = .ok column) :
    ((buildColumn type rows params).run.run engine).1 =
      .ok (column.firstRows rows) := by
  have samePlan := DrawPlan.of_eq_of_le pooled fewer
  cases type with
  | fixed type =>
      rcases
          (buildColumn_fixed_eq_ok_iff more params engine type).1 built with
        ⟨plan, planEqual, fit, rfl⟩
      refine (buildColumn_fixed_eq_ok_iff rows params engine type).2 ?_
      refine ⟨plan, samePlan.trans planEqual, valuesFit_of_le fewer fit, ?_⟩
      symm
      exact
        layOutValues_firstRows fewer
          (plan.cells_drawRuns_take _ engine fewer)
  | string =>
      rcases
          (buildColumn_string_eq_ok_iff more params engine).1 built with
        ⟨plan, planEqual, fit, poolFits, fits, rfl⟩
      have cells :
          (plan.drawn .string rows engine).cells.toList =
            (plan.drawn .string more engine).cells.toList.take rows :=
        plan.cells_drawRuns_take _ engine fewer
      have pool :
          (plan.drawn .string rows engine).pool =
            (plan.drawn .string more engine).pool :=
        (plan.pool_drawRuns _ engine rows).trans
          (plan.pool_drawRuns _ engine more).symm
      have complete :
          (plan.drawn .string more engine).cells.toList.length = more :=
        (plan.drawn_fills .string more engine).size_cells
      refine (buildColumn_string_eq_ok_iff rows params engine).2 ?_
      refine
        ⟨plan, samePlan.trans planEqual, stringsFit_of_le fewer fit,
          pool ▸ poolFits, cells ▸ fits.take rows, ?_⟩
      rw [cells, StringColumn.ofCells_firstRows fits complete fewer]
  | dictionary32 => cases built
  | list => cases built
  | struct => cases built

/--
A column of fewer rows is the first rows of the column of more rows, in its
buffers and in its bitmap, and row by row both read the same.
-/
theorem buildColumn_truncates
    (fewer : rows ≤ more)
    (pooled : params.cardinality.toNat ≤ rows)
    (built : ((buildColumn type more params).run.run engine).1 = .ok column) :
    ((buildColumn type rows params).run.run engine).1 =
        .ok (column.firstRows rows) ∧
      (column.firstRows rows).rowCount = rows ∧
        ∀ row,
          row < rows →
            ∃ valid record,
              column.isValid? row = .ok valid ∧
                (column.firstRows rows).isValid? row = .ok valid ∧
                  column.record? row = .ok record ∧
                    (column.firstRows rows).record? row = .ok record := by
  have shortBuilt := buildColumn_eq_firstRows fewer pooled built
  have rowCount := buildColumn_rowCount shortBuilt
  refine ⟨shortBuilt, rowCount, ?_⟩
  intro row inside
  rcases buildColumn_holds built with ⟨plan, planEqual, holds, -⟩
  rcases buildColumn_holds shortBuilt with
    ⟨shortPlan, shortPlanEqual, shortHolds, -⟩
  have samePlan : shortPlan = plan := by
    rw [DrawPlan.of_eq_of_le pooled fewer, planEqual] at shortPlanEqual
    exact (Except.ok.inj shortPlanEqual).symm
  rw [samePlan, show (plan.drawn type rows engine).cells.toList = _ from
    plan.cells_drawRuns_take _ engine fewer, List.map_take] at shortHolds
  rcases shortHolds.exists_row (rowCount ▸ inside) with
    ⟨content, found, valid, record⟩
  rw [List.getElem?_take_of_lt inside] at found
  exact
    ⟨content.valid, content.record, holds.isValid? found, valid,
      holds.record? found, record⟩

end Building

/-- Five rows picked from a pool of two are cut to the first three. -/
theorem buildColumn_truncates_pooled :
    ∃ column,
      ((buildColumn (.fixed .int32) 5 ⟨⟨0⟩, 2, 4⟩).run.run
          (Engine.seeded 0)).1 = .ok column ∧
        ((buildColumn (.fixed .int32) 3 ⟨⟨0⟩, 2, 4⟩).run.run
          (Engine.seeded 0)).1 = .ok (column.firstRows 3) := by
  have plan : DrawPlan.of ⟨⟨0⟩, 2, 4⟩ 5 = .ok ⟨.never, .withAverage 4, 2⟩ := by rfl
  have fit : valuesFit .int32 5 = true := by decide
  rcases exists_buildColumn_fixed plan fit (Engine.seeded 0) with
    ⟨column, built⟩
  exact
    ⟨column, built, (buildColumn_truncates (by decide) (by decide) built).1⟩

end SyntheticTable
