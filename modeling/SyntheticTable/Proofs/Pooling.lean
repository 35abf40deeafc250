import SyntheticTable.Proofs.BuiltColumn
import SyntheticTable.Proofs.Summaries

/-!
# Columns with a pool

The cells of a pool are drawn as the cells of a column without a pool and
without runs are.  A column with a pool repeats them, so each of its rows is a
row of that other column, and it has no more different records.
-/

namespace SyntheticTable

/-- The same chance of nulls, without a pool and without runs. -/
def ColumnParams.unpooled (params : ColumnParams) : ColumnParams :=
  { params with cardinality := 0, averageRunLength := 1 }

/-- The number of cells in the pool of a column. -/
def ColumnParams.poolSize (params : ColumnParams) (rows : Nat) : Nat :=
  min params.cardinality.toNat rows

theorem DrawPlan.of_unpooled
    {params : ColumnParams}
    {rows : Nat}
    {plan unpooledPlan : DrawPlan}
    (planEqual : DrawPlan.of params rows = .ok plan)
    (unpooledEqual :
      DrawPlan.of params.unpooled (params.poolSize rows) = .ok unpooledPlan) :
    plan.poolSize = params.poolSize rows ∧
      unpooledPlan = ⟨plan.nulls, ⟨none⟩, 0⟩ := by
  rcases DrawPlan.of_eq_ok_iff.1 planEqual with ⟨nulls, ruled, rfl⟩
  rcases DrawPlan.of_eq_ok_iff.1 unpooledEqual with ⟨others, sameRuled, rfl⟩
  cases ruled.symm.trans sameRuled
  refine ⟨rfl, ?_⟩
  show DrawPlan.mk nulls ⟨none⟩ (min 0 _) = _
  rw [Nat.zero_min]

section Pooled

variable
    {type : SemanticType}
    {rows : Nat}
    {params : ColumnParams}
    {engine : Engine}
    {pool column : Column}

/-- The rows of a column with a pool occur among those of the column of its pool. -/
theorem buildColumn_rows_subset
    (someRows : 0 < rows)
    (someCells : 0 < params.cardinality.toNat)
    (poolBuilt :
      ((buildColumn type (params.poolSize rows) params.unpooled).run.run
        engine).1 = .ok pool)
    (built : ((buildColumn type rows params).run.run engine).1 = .ok column) :
    ∃ poolRows columnRows,
      pool.Holds poolRows ∧ column.Holds columnRows ∧
        columnRows ⊆ poolRows := by
  rcases buildColumn_holds poolBuilt with
    ⟨unpooledPlan, unpooledEqual, poolHolds, -⟩
  rcases buildColumn_holds built with ⟨plan, planEqual, holds, -⟩
  rcases DrawPlan.of_unpooled planEqual unpooledEqual with ⟨poolSize, rfl⟩
  have poolCells :
      (DrawPlan.drawn ⟨plan.nulls, ⟨none⟩, 0⟩ type (params.poolSize rows) engine).cells =
        (plan.drawPool (type.drawCell plan.nulls) engine).1 := by
    rw [DrawPlan.drawPool, poolSize]
    exact
      (DrawPlan.drawRuns_of_fresh ⟨plan.nulls, ⟨none⟩, 0⟩
        (type.drawCell plan.nulls) engine rfl rfl _).1
  have pooled : plan.poolSize ≠ 0 := by
    rw [poolSize, ColumnParams.poolSize]
    omega
  refine ⟨_, _, poolHolds, holds, ?_⟩
  rw [poolCells]
  refine List.map_subset _ ?_
  intro cell member
  rw [Array.mem_toList_iff] at member ⊢
  exact
    plan.mem_pool_of_mem_cells (type.drawCell plan.nulls) engine pooled member

/--
Every row of a column with a pool has the record and the validity of a row of
the column that is its pool, so it has no more different records.
-/
theorem buildColumn_pooled
    (someRows : 0 < rows)
    (someCells : 0 < params.cardinality.toNat)
    (poolBuilt :
      ((buildColumn type (params.poolSize rows) params.unpooled).run.run
        engine).1 = .ok pool)
    (built : ((buildColumn type rows params).run.run engine).1 = .ok column) :
    (∀ row,
        row < rows →
          ∃ slot valid record,
            slot < params.poolSize rows ∧
              column.isValid? row = .ok valid ∧
                pool.isValid? slot = .ok valid ∧
                  column.record? row = .ok record ∧
                    pool.record? slot = .ok record) ∧
      ∃ summary poolSummary,
        ColumnSummary.of column = .ok summary ∧
          ColumnSummary.of pool = .ok poolSummary ∧
            summary.distinctCount ≤ poolSummary.distinctCount ∧
              poolSummary.distinctCount ≤ params.poolSize rows := by
  have rowCount := buildColumn_rowCount built
  have slots := buildColumn_rowCount poolBuilt
  rcases buildColumn_rows_subset someRows someCells poolBuilt built with
    ⟨poolRows, columnRows, poolHolds, holds, subset⟩
  constructor
  · intro row inside
    rcases holds.exists_row (rowCount ▸ inside) with
      ⟨content, found, valid, record⟩
    rcases List.getElem?_of_mem (subset (List.mem_of_getElem? found)) with
      ⟨slot, slotFound⟩
    rcases List.getElem?_eq_some_iff.1 slotFound with ⟨slotInside, -⟩
    rw [← poolHolds.rowCount, slots] at slotInside
    exact
      ⟨slot, content.valid, content.record, slotInside, valid,
        poolHolds.isValid? slotFound, record, poolHolds.record? slotFound⟩
  · rcases holds.summary with ⟨summary, summaryEqual, distinct, -⟩
    rcases poolHolds.summary with
      ⟨poolSummary, poolSummaryEqual, poolDistinct, -⟩
    refine ⟨summary, poolSummary, summaryEqual, poolSummaryEqual, ?_, ?_⟩
    · rw [distinct, poolDistinct]
      exact card_validRecords_le_of_subset subset
    · rw [poolDistinct, ← slots, poolHolds.rowCount]
      exact card_validRecords_le poolRows

end Pooled

/-- Five rows picked from a pool of two have at most two different records. -/
theorem buildColumn_pooled_two :
    ∃ pool column summary,
      ((buildColumn (.fixed .int32) 2 ⟨⟨0⟩, 0, 1⟩).run.run
          (Engine.seeded 0)).1 = .ok pool ∧
        ((buildColumn (.fixed .int32) 5 ⟨⟨0⟩, 2, 4⟩).run.run
          (Engine.seeded 0)).1 = .ok column ∧
          ColumnSummary.of column = .ok summary ∧
            summary.distinctCount ≤ 2 := by
  have poolPlan : DrawPlan.of ⟨⟨0⟩, 0, 1⟩ 2 = .ok ⟨.never, .withAverage 1, 0⟩ := by rfl
  have plan : DrawPlan.of ⟨⟨0⟩, 2, 4⟩ 5 = .ok ⟨.never, .withAverage 4, 2⟩ := by rfl
  have poolFit : valuesFit .int32 2 = true := by decide
  have fit : valuesFit .int32 5 = true := by decide
  rcases exists_buildColumn_fixed poolPlan poolFit (Engine.seeded 0) with
    ⟨pool, poolBuilt⟩
  rcases exists_buildColumn_fixed plan fit (Engine.seeded 0) with
    ⟨column, built⟩
  rcases buildColumn_pooled (by decide) (by decide) poolBuilt built with
    ⟨-, summary, poolSummary, summaryEqual, -, fewer, bounded⟩
  exact
    ⟨pool, column, summary, poolBuilt, built, summaryEqual,
      fewer.trans bounded⟩

end SyntheticTable
