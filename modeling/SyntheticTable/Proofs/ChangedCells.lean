import SyntheticTable.Proofs.BuiltColumn

/-!
# Changed cells

Nothing that is drawn later depends on the cells drawn so far.  So where each
cell of one column is that of another, changed in some way, the two columns
are drawn alike: the same picks, the same lengths, the cells changed, and the
engine is left at the same place.
-/

namespace SyntheticTable

variable {α β : Type}

/-- A pick with its cell changed. -/
def Pick.map (change : α → β) : Pick α → Pick β
  | .pooled place => .pooled place
  | .fresh cell => .fresh (change cell)

/-- A run with its cell changed. -/
def Run.map (change : α → β) (run : Run α) : Run β where
  pick := run.pick.map change
  length := run.length

/-- A pool and runs with all cells changed. -/
def DrawnRuns.map (change : α → β) (drawn : DrawnRuns α) : DrawnRuns β where
  pool := drawn.pool.map change
  runs := drawn.runs.map (Run.map change)

/-! ## Cells in sequence -/

namespace Draw

theorem map_run
    (change : α → β)
    (draw : Draw α)
    (engine : Engine) :
    (change <$> draw).run engine =
      (change (draw.run engine).1, (draw.run engine).2) :=
  rfl

theorem repeated_map_run
    (change : α → β)
    (draw : Draw α)
    (count : Nat)
    (engine : Engine) :
    (repeated count (change <$> draw)).run engine =
      (((repeated count draw).run engine).1.map change,
        ((repeated count draw).run engine).2) := by
  induction count generalizing engine with
  | zero => rw [repeated_zero_run, repeated_zero_run, Array.map_empty]
  | succ count inductionHypothesis =>
      rw [repeated_succ_run, repeated_succ_run, map_run, inductionHypothesis]
      simp

end Draw

/-! ## Cells of runs -/

namespace DrawsRuns

variable
    {pick : Draw (Pick α)}
    {length : Draw Nat}
    {remaining : Nat}
    {engine last otherLast : Engine}
    {runs others : List (Run α)}

theorem unique
    (draws : DrawsRuns pick length remaining engine runs last)
    (otherDraws : DrawsRuns pick length remaining engine others otherLast) :
    runs = others ∧ last = otherLast := by
  induction draws generalizing others with
  | done engine =>
      cases otherDraws
      exact ⟨rfl, rfl⟩
  | run pickDrawn lengthDrawn cutEqual laterRuns inductionHypothesis =>
      cases otherDraws with
      | run otherPickDrawn otherLengthDrawn otherCutEqual otherLaterRuns =>
          cases pickDrawn.symm.trans otherPickDrawn
          cases lengthDrawn.symm.trans otherLengthDrawn
          cases cutEqual.trans otherCutEqual.symm
          rcases inductionHypothesis otherLaterRuns with ⟨rfl, rfl⟩
          exact ⟨rfl, rfl⟩

/-- Changing each pick as it is drawn changes the picks of the runs. -/
theorem map
    (change : α → β)
    (draws : DrawsRuns pick length remaining engine runs last) :
    DrawsRuns (Pick.map change <$> pick) length remaining engine
      (runs.map (Run.map change)) last := by
  induction draws with
  | done engine => exact .done engine
  | @run _ _ engine _ _ _ _ _ _ pickDrawn lengthDrawn cutEqual laterRuns
      inductionHypothesis =>
      refine .run ?_ lengthDrawn cutEqual inductionHypothesis
      rw [Draw.map_run, pickDrawn]

end DrawsRuns

theorem rowPicks_map
    (change : α → β)
    (runs : List (Run α)) :
    rowPicks (runs.map (Run.map change)) =
      (rowPicks runs).map (Pick.map change) := by
  induction runs with
  | nil => rfl
  | cons run runs inductionHypothesis =>
      rw [List.map_cons, rowPicks_cons, rowPicks_cons, inductionHypothesis,
        List.map_append, List.map_replicate]
      rfl

theorem DrawnRuns.cell?_map
    (change : α → β)
    (drawn : DrawnRuns α)
    (picked : Pick α) :
    (drawn.map change).cell? (picked.map change) =
      (drawn.cell? picked).map change := by
  cases picked with
  | pooled place => exact Array.getElem?_map
  | fresh cell => rfl

theorem DrawnRuns.cells_map
    (change : α → β)
    (drawn : DrawnRuns α) :
    (drawn.map change).cells = drawn.cells.map change := by
  apply Array.toList_inj.1
  rw [toList_cells, Array.toList_map, toList_cells, List.map_filterMap]
  show (rowPicks (drawn.runs.map (Run.map change)).toList).filterMap _ = _
  rw [Array.toList_map, rowPicks_map, List.filterMap_map]
  exact congrArg (List.filterMap · _) (funext (drawn.cell?_map change))

theorem DrawnRuns.Fills.map
    {drawn : DrawnRuns α}
    {rows : Nat}
    (fills : drawn.Fills rows)
    (change : α → β) :
    (drawn.map change).Fills rows where
  grounded := by
    intro run member
    rcases Array.mem_map.1 member with ⟨source, sourceMember, rfl⟩
    rcases fills.grounded source sourceMember with ⟨cell, found⟩
    refine ⟨change cell, ?_⟩
    show (drawn.map change).cell? (source.pick.map change) = _
    rw [cell?_map, found]
    rfl
  positive := by
    intro run member
    rcases Array.mem_map.1 member with ⟨source, sourceMember, rfl⟩
    exact fills.positive source sourceMember
  size_cells := by
    rw [cells_map, Array.size_map, fills.size_cells]

namespace DrawPlan

variable
    (plan : DrawPlan)
    (change : α → β)
    (cell : Draw α)
    (engine : Engine)

theorem drawPick_map :
    plan.drawPick (change <$> cell) = Pick.map change <$> plan.drawPick cell := by
  unfold drawPick
  split
  · rfl
  · rfl

/-- Drawing changed cells is drawing the cells and changing them. -/
theorem drawRuns_map_run (rows : Nat) :
    (plan.drawRuns rows (change <$> cell)).run engine =
      (((plan.drawRuns rows cell).run engine).1.map change,
        ((plan.drawRuns rows cell).run engine).2) := by
  have pool :
      plan.drawPool (change <$> cell) engine =
        ((plan.drawPool cell engine).1.map change,
          (plan.drawPool cell engine).2) :=
    Draw.repeated_map_run change cell plan.poolSize engine
  rcases plan.drawRuns_draws cell engine rows with
    ⟨runs, last, draws, drawnEqual⟩
  rcases plan.drawRuns_draws (change <$> cell) engine rows with
    ⟨changedRuns, changedLast, changedDraws, changedEqual⟩
  rw [drawPick_map, pool] at changedDraws
  rcases changedDraws.unique (draws.map change) with ⟨rfl, rfl⟩
  rw [changedEqual, drawnEqual, pool]
  simp [DrawnRuns.map]

end DrawPlan

/-! ## Columns of two kinds -/

section Kinds

variable
    {source target : FixedType}
    {change : source.Value → target.Value}

/-- Where values are drawn changed, cells are, and nulls stay nulls. -/
theorem drawValueCell_map
    (draws : target.draw = change <$> source.draw)
    (nulls : NullRule) :
    drawValueCell target.draw nulls =
      Option.map change <$> drawValueCell source.draw nulls := by
  apply StateT.ext
  intro engine
  rw [Draw.map_run, drawValueCell, drawValueCell, StateT.run_bind, StateT.run_bind]
  rcases nulls.drawValid.run engine with ⟨valid, rest⟩
  cases valid with
  | true =>
      rw [draws]
      rfl
  | false => rfl

/-- Changed cells are laid out under the same mask, each value changed. -/
theorem layOutValues_map
    (defaults : change source.defaultValue = target.defaultValue)
    (rows : Nat)
    (drawn : DrawnRuns (Option source.Value)) :
    layOutValues target rows (drawn.map (Option.map change)) =
      ⟨.fixed target
          ((drawn.cells.map (·.getD source.defaultValue)).map change),
        (layOutValues source rows drawn).mask⟩ := by
  have data :
      (drawn.map (Option.map change)).cells.map (·.getD target.defaultValue) =
        (drawn.cells.map (·.getD source.defaultValue)).map change := by
    rw [DrawnRuns.cells_map, Array.map_map, Array.map_map]
    refine congrArg (Array.map · drawn.cells) ?_
    funext cell
    cases cell with
    | none => exact defaults.symm
    | some value => rfl
  have valid :
      (fun row => ((drawn.map (Option.map change)).cells.getD row none).isSome) =
        fun row => (drawn.cells.getD row none).isSome := by
    funext row
    rw [DrawnRuns.cells_map, Array.getD_eq_getD_getElem?,
      Array.getD_eq_getD_getElem?, Array.getElem?_map]
    cases drawn.cells[row]? with
    | none => rfl
    | some cell => cases cell <;> rfl
  show Column.mk _ (NullBitmap.ofTest rows _) = _
  rw [data, valid]
  rfl

/--
Where the values of one kind are those of another of the same width, changed,
columns of the two kinds are built alike: under the same mask, with each value
changed, and the engine is left at the same place.
-/
theorem buildColumn_of_changed_draw
    (draws : target.draw = change <$> source.draw)
    (defaults : change source.defaultValue = target.defaultValue)
    (widths : target.width = source.width)
    {rows : Nat}
    {params : ColumnParams}
    {plan : DrawPlan}
    (planned : DrawPlan.of params rows = .ok plan)
    (engine : Engine) :
    ∃ values mask last,
      values.size = rows ∧
        (buildColumn (.fixed source) rows params).run.run engine =
            (if valuesFit source rows then
              (.ok ⟨.fixed source values, mask⟩, last)
            else
              (.error .bufferTooLarge, engine)) ∧
          (buildColumn (.fixed target) rows params).run.run engine =
            (if valuesFit source rows then
              (.ok ⟨.fixed target (values.map change), mask⟩, last)
            else
              (.error .bufferTooLarge, engine)) := by
  let cell := drawValueCell source.draw plan.nulls
  have size := plan.size_cells_drawRuns cell engine rows
  have fits : valuesFit target rows = valuesFit source rows := by
    rw [valuesFit, valuesFit, widths]
  refine
    ⟨((plan.drawRuns rows cell).run engine).1.cells.map
        (·.getD source.defaultValue),
      (layOutValues source rows ((plan.drawRuns rows cell).run engine).1).mask,
      ((plan.drawRuns rows cell).run engine).2, ?_, ?_, ?_⟩
  · rw [Array.size_map, size]
  · exact buildColumn_fixed_run rows params engine planned source
  · rw [buildColumn_fixed_run rows params engine planned target,
      drawValueCell_map draws, plan.drawRuns_map_run, layOutValues_map defaults,
      fits]

end Kinds

end SyntheticTable
