import SyntheticTable.Proofs.BuiltColumn
import SyntheticTable.Proofs.FilledTexts
import SyntheticTable.Proofs.FilledValues
import SyntheticTable.Proofs.NullChance

/-!
# Progress of the filling loops

Columns of both layouts are filled by loops that make progress: whatever lengths
are sampled for the runs, a loop needs no more passes than there are rows, never
goes past the last row, and uses only rows and places that are there.  A string
column has as many records as rows were filled, and is refused only over texts
that are too long.

What the loops fill pass by pass, with every access checked, is the column that
`buildColumn` builds, and the engine is left in the same place.
-/

namespace SyntheticTable

section Filling

variable
    {rows : Nat}
    {params : ColumnParams}
    {plan : DrawPlan}
    (planned : DrawPlan.of params rows = .ok plan)
    (engine : Engine)

include planned

/-- The loops of a fixed-width column end with the column that is built. -/
theorem exists_fills_values
    {type : FixedType}
    (fit : valuesFit type rows = true) :
    ∃ buffers last,
      (valueFiller type).Fills plan (drawValueCell type.draw plan.nulls)
          (.ofLengths plan.runLengths) rows engine (.ok buffers) last ∧
        (buildColumn (.fixed type) rows params).run.run engine =
          (.ok buffers.toColumn, last) := by
  rcases
      (valueFiller_keeps type).exists_fills_drawRuns plan
        (drawValueCell type.draw plan.nulls) rows engine with
    ⟨last, fills, lastEqual⟩
  rcases
      exists_putDrawn_values
        (plan.size_cells_drawRuns (drawValueCell type.draw plan.nulls) engine rows) with
    ⟨buffers, put, laidOut⟩
  rw [put] at fills
  refine ⟨buffers, last, fills, ?_⟩
  rw [buildColumn_fixed_run rows params engine planned, if_pos fit, laidOut,
    lastEqual buffers put]

/-- The loops of a string column end with the column or the error of building it. -/
theorem exists_fills_texts (fit : stringsFit rows = true) :
    ∃ outcome last,
      textFiller.Fills plan (drawTextCell textLengths plan.nulls)
          (.ofLengths plan.runLengths) rows engine outcome last ∧
        ((buildStrings rows params).run.run engine).1.mapError .refused =
            outcome ∧
          ∀ column,
            outcome = .ok column →
              ((buildStrings rows params).run.run engine).2 = last := by
  have drawnFills := plan.drawRuns_fills (drawTextCell textLengths plan.nulls) engine rows
  rcases
      textFiller_keeps.exists_fills_drawRuns plan (drawTextCell textLengths plan.nulls) rows
        engine with
    ⟨last, fills, lastEqual⟩
  refine ⟨_, last, fills, ?_, ?_⟩
  · rw [buildStrings_run, planned, putDrawn_texts drawnFills]
    simp only [fit, if_true]
  · intro column filled
    rw [buildStrings_run, planned, lastEqual column filled]
    simp only [fit, if_true]

end Filling

/--
For every number of rows and every shape with a possible chance of nulls, both
loops that fill a column make progress, from every engine and with every way of
drawing values and of sampling the lengths of texts and runs; a length of a run
that is drawn is one row at least and no more rows than remain, if any remains.
With the lengths of the shape the loops end with the column that is built, or with
the error.
-/
theorem filling_makes_progress
    {rows : Nat}
    {params : ColumnParams}
    (chance : params.nullFrequency.IsChance) :
    ∃ plan,
      DrawPlan.of params rows = .ok plan ∧
        (∀ (type : FixedType) (value : Draw type.Value) (rule : RunRule)
            (engine : Engine),
          (valueFiller type).MakesProgress plan (drawValueCell value plan.nulls)
            rule rows KeepsPlaces (fun _ => False) engine) ∧
        (∀ (lengths : Poisson) (rule : RunRule) (engine : Engine),
          textFiller.MakesProgress plan (drawTextCell lengths plan.nulls) rule rows
            KeepsStep IsTooMuchText engine) ∧
        (∀ (rule : RunRule) (remaining : Nat) (engine : Engine),
          0 < remaining →
            ∃ length rest,
              (rule.draw remaining).run.run engine = (.ok length, rest) ∧
                1 ≤ length ∧ length ≤ remaining) ∧
        ∀ engine : Engine,
          (∀ type : FixedType,
            valuesFit type rows = true →
              ∃ buffers last,
                (valueFiller type).Fills plan (drawValueCell type.draw plan.nulls)
                    (.ofLengths plan.runLengths) rows engine
                    (.ok buffers) last ∧
                  (buildColumn (.fixed type) rows params).run.run engine =
                    (.ok buffers.toColumn, last)) ∧
          (stringsFit rows = true →
            ∃ outcome last,
              textFiller.Fills plan (drawTextCell textLengths plan.nulls)
                  (.ofLengths plan.runLengths) rows engine outcome last ∧
                ((buildStrings rows params).run.run engine).1.mapError
                    FillFault.refused =
                  outcome ∧
                ∀ column,
                  outcome = .ok column →
                    ((buildStrings rows params).run.run engine).2 = last) := by
  rcases (DrawPlan.exists_of_iff params rows).2 chance with ⟨plan, planned⟩
  refine ⟨plan, planned, ?_, ?_, ?_, ?_⟩
  · intro type value rule engine
    exact
      (valueFiller_keeps type).makesProgress HoldsValues.keepsPlaces plan _ rule rows
        engine
  · intro lengths rule engine
    exact textFiller_keeps.makesProgress HoldsTexts.keepsStep plan _ rule rows engine
  · intro rule remaining engine someRow
    exact rule.exists_draw_run someRow engine
  · intro engine
    exact
      ⟨fun _ fit => exists_fills_values planned engine fit,
        exists_fills_texts planned engine⟩

/--
Five numbers, half of them null by chance, are picked from a pool of two: the
loops make progress where no length that is sampled is a number, and with the
lengths of the shape they end with the column that is built.
-/
theorem filling_makes_progress_five :
    Single.IsChance ⟨0x3F00_0000⟩ ∧
      valuesFit .int32 5 = true ∧
        ∃ plan,
          DrawPlan.of ⟨⟨0x3F00_0000⟩, 2, 4⟩ 5 = .ok plan ∧
            (valueFiller .int32).MakesProgress plan
                (drawValueCell (FixedType.draw .int32) plan.nulls)
                (.sampled (return Float32.ofBits 0x7FC0_0000)) 5 KeepsPlaces
                (fun _ => False) (Engine.seeded 7) ∧
              ∃ buffers last,
                (valueFiller .int32).Fills plan
                    (drawValueCell (FixedType.draw .int32) plan.nulls)
                    (.ofLengths plan.runLengths) 5 (Engine.seeded 7)
                    (.ok buffers) last ∧
                  (buildColumn (.fixed .int32) 5
                      ⟨⟨0x3F00_0000⟩, 2, 4⟩).run.run (Engine.seeded 7) =
                    (.ok buffers.toColumn, last) := by
  have planned :
      DrawPlan.of ⟨⟨0x3F00_0000⟩, 2, 4⟩ 5 = .ok ⟨.below 8388608, .withAverage 4, 2⟩ := by
    rfl
  have chance : Single.IsChance ⟨0x3F00_0000⟩ :=
    (DrawPlan.exists_of_iff _ 5).1 ⟨_, planned⟩
  have fit : valuesFit .int32 5 = true := by decide
  rcases @filling_makes_progress 5 ⟨⟨0x3F00_0000⟩, 2, 4⟩ chance with
    ⟨plan, samePlan, values, -, -, built⟩
  exact ⟨chance, fit, plan, samePlan, values _ _ _ _, (built _).1 .int32 fit⟩

end SyntheticTable
