import SyntheticTable.Proofs.BuiltColumn
import SyntheticTable.Proofs.MaximalRuns

/-!
# Drawn and reported runs

A column is drawn run by run, and later its maximal runs are measured by
comparing rows.  Nothing of the drawing is kept in the column, and runs that
were drawn one after the other may be equal by chance.  Still the two fit
together: what is reported are the drawn runs, some neighbours merged.
-/

namespace SyntheticTable

/-- Runs with cells are written in blocks, one for each run. -/
theorem DrawnRuns.exists_blocks_of_runs
    {α : Type}
    {drawn : DrawnRuns α}
    {runs : List (Run α)}
    (grounded : ∀ run ∈ runs, ∃ cell, drawn.cell? run.pick = some cell)
    (positive : ∀ run ∈ runs, 0 < run.length)
    (rowOf : α → ColumnRow) :
    ∃ blocks,
      blocks.map RowBlock.length = runs.map Run.length ∧
        RowBlock.rowsOf blocks =
          ((rowPicks runs).filterMap drawn.cell?).map rowOf := by
  induction runs with
  | nil => exact ⟨[], rfl, rfl⟩
  | cons run runs inductionHypothesis =>
      rcases List.forall_mem_cons.1 grounded with ⟨⟨cell, found⟩, othersGrounded⟩
      rcases List.forall_mem_cons.1 positive with ⟨runPositive, othersPositive⟩
      rcases inductionHypothesis othersGrounded othersPositive with
        ⟨blocks, lengths, rowsEqual⟩
      refine ⟨⟨rowOf cell, run.length, runPositive⟩ :: blocks, ?_, ?_⟩
      · rw [List.map_cons, List.map_cons, lengths]
      · rw [RowBlock.rowsOf_cons, rowsEqual, rowPicks_cons,
          List.filterMap_append, List.filterMap_replicate_of_some found,
          List.map_append, List.map_replicate]
        rfl

/-- The rows of a column are written in blocks, one for each run that was drawn. -/
theorem DrawnRuns.Fills.exists_blocks
    {α : Type}
    {drawn : DrawnRuns α}
    {rows : Nat}
    (fills : drawn.Fills rows)
    (rowOf : α → ColumnRow) :
    ∃ blocks,
      blocks.map RowBlock.length = drawn.lengths ∧
        RowBlock.rowsOf blocks = drawn.cells.toList.map rowOf := by
  rw [DrawnRuns.toList_cells]
  apply DrawnRuns.exists_blocks_of_runs
  · exact fun run member => fills.grounded run (Array.mem_toList_iff.1 member)
  · exact fun run member => fills.positive run (Array.mem_toList_iff.1 member)

section Built

variable
    {type : SemanticType}
    {rows : Nat}
    {params : ColumnParams}
    {engine : Engine}
    {column : Column}

/--
The runs that are drawn for a column take at least one row each and all rows
together, and the rows of one of them are equal.  The maximal runs that are
reported arise from them by merging neighbours: there are no more of them, and
they meet only where drawn runs meet.
-/
theorem buildColumn_reports_drawn_runs
    (built : ((buildColumn type rows params).run.run engine).1 = .ok column) :
    ∃ plan reported,
      DrawPlan.of params rows = .ok plan ∧
        type.layOut rows (plan.drawn type rows engine) = .ok column ∧
        column.runLengths? = .ok reported ∧
        let lengths := (plan.drawn type rows engine).lengths
        (∀ length ∈ lengths, 1 ≤ length) ∧
          lengths.sum = rows ∧
          (∀ before length after left right,
            lengths = before ++ length :: after →
            left < length →
            right < length →
              column.rowsEqual? (before.sum + left) (before.sum + right) =
                .ok true) ∧
          MergesInto lengths reported ∧
          reported.length ≤ lengths.length ∧
          ∀ place,
            ∃ drawnPlace,
              drawnPlace ≤ lengths.length ∧
                (reported.take place).sum = (lengths.take drawnPlace).sum := by
  rcases (buildColumn_eq_ok_iff rows params engine).1 built with
    ⟨plan, planned, -, laidOut⟩
  rcases buildColumn_holds built with ⟨other, otherPlanned, holds, -⟩
  cases planned.symm.trans otherPlanned
  have fills := plan.drawn_fills type rows engine
  rcases fills.exists_blocks type.cellRow with ⟨blocks, lengths, rowsEqual⟩
  rw [← rowsEqual] at holds
  have merges := RowBlock.mergesInto_maximalRuns blocks
  rw [lengths] at merges
  refine
    ⟨plan, _, planned, laidOut, holds.runLengths?, ?_, ?_, ?_, merges,
      merges.length_le, merges.exists_boundary⟩
  · intro length member
    rcases List.mem_map.1 member with ⟨run, runMember, rfl⟩
    exact fills.positive run (Array.mem_toList_iff.1 runMember)
  · rw [← lengths, ← RowBlock.length_rowsOf, rowsEqual, List.length_map]
    exact fills.size_cells
  · intro before length after left right split leftInside rightInside
    rcases RowBlock.rowsOf_getElem? (lengths.trans split) with ⟨row, found⟩
    rw [holds.rowsEqual? (found left leftInside) (found right rightInside)]
    exact congrArg Except.ok (decide_eq_true rfl)

end Built

/--
Of six truth values, each null with a chance of one half, the second and the
third are drawn apart and reported together.
-/
theorem buildColumn_reports_drawn_runs_six :
    ∃ column,
      ((buildColumn (.fixed .bool) 6 ⟨⟨0x3F00_0000⟩, 0, 1⟩).run.run
          (Engine.seeded 1)).1 = .ok column ∧
        column.runLengths? = .ok [1, 2, 1, 1, 1] ∧
          MergesInto [1, 1, 1, 1, 1, 1] [1, 2, 1, 1, 1] := by
  have planned :
      DrawPlan.of ⟨⟨0x3F00_0000⟩, 0, 1⟩ 6 = .ok ⟨.below 8388608, .withAverage 1, 0⟩ := by
    rfl
  have fit : valuesFit .bool 6 = true := by decide
  rcases exists_buildColumn_fixed planned fit (Engine.seeded 1) with
    ⟨column, built⟩
  rcases buildColumn_reports_drawn_runs built with
    ⟨plan, reported, others, laidOut, measured, -, -, -, merges, -⟩
  cases planned.symm.trans others
  have lengths :
      (DrawPlan.drawn ⟨.below 8388608, .withAverage 1, 0⟩ (.fixed .bool) 6
        (Engine.seeded 1)).lengths = [1, 1, 1, 1, 1, 1] := by
    decide +kernel
  have reports :
      (layOutValues .bool 6
        (DrawPlan.drawn ⟨.below 8388608, .withAverage 1, 0⟩ (.fixed .bool) 6
          (Engine.seeded 1))).runLengths? = .ok [1, 2, 1, 1, 1] := by
    decide +kernel
  cases laidOut
  cases reports.symm.trans measured
  rw [lengths] at merges
  exact ⟨_, built, reports, merges⟩

end SyntheticTable
