import SyntheticTable.Proofs.RunDrawing

/-!
# The cells of a column

The cell of a row is that of the run in which the row lies, and the cell of a
run comes from the pool or is drawn for the run.  A place in the pool is drawn
below its size, so every row has a cell.

Two facts tie the columns of one engine together.  With the same pool, a
shorter column has the first cells of a longer one.  Without a pool and
without runs, the cells are those that make up a pool of as many places.
-/

namespace SyntheticTable

variable {α : Type}

namespace DrawnRuns

theorem toList_cells (drawn : DrawnRuns α) :
    drawn.cells.toList =
      (rowPicks drawn.runs.toList).filterMap drawn.cell? := by
  rw [cells, Array.toList_flatMap, rowPicks, List.filterMap_flatMap]
  refine congrArg (List.flatMap · drawn.runs.toList) ?_
  funext run
  cases found : drawn.cell? run.pick with
  | none => simp [List.filterMap_replicate_of_none found]
  | some cell => simp [List.filterMap_replicate_of_some found]

theorem exists_run_of_mem_cells
    {drawn : DrawnRuns α}
    {found : α}
    (member : found ∈ drawn.cells) :
    ∃ run ∈ drawn.runs, drawn.cell? run.pick = some found := by
  rw [← Array.mem_toList_iff, toList_cells] at member
  rcases List.mem_filterMap.1 member with ⟨picked, pickedMember, foundEqual⟩
  rcases mem_rowPicks pickedMember with ⟨run, runMember, rfl⟩
  exact ⟨run, Array.mem_toList_iff.1 runMember, foundEqual⟩

/-- Every run has a cell. -/
def Grounded (drawn : DrawnRuns α) : Prop :=
  ∀ run ∈ drawn.runs, ∃ cell, drawn.cell? run.pick = some cell

/-- The runs fill a number of rows: every run has a cell and takes some row. -/
structure Fills (drawn : DrawnRuns α) (rows : Nat) : Prop where
  grounded : drawn.Grounded
  positive : ∀ run ∈ drawn.runs, 0 < run.length
  size_cells : drawn.cells.size = rows

end DrawnRuns

theorem DrawnRuns.Grounded.rowPicks
    {drawn : DrawnRuns α}
    (grounded : drawn.Grounded) :
    ∀ picked ∈ SyntheticTable.rowPicks drawn.runs.toList,
      ∃ cell, drawn.cell? picked = some cell := by
  intro picked member
  rcases mem_rowPicks member with ⟨run, runMember, rfl⟩
  exact grounded run (Array.mem_toList_iff.1 runMember)

/-- Where every entry has a result, as many results belong to the first entries. -/
theorem filterMap_take
    {β γ : Type}
    {result? : β → Option γ}
    {entries : List β}
    (all : ∀ entry ∈ entries, ∃ result, result? entry = some result)
    (count : Nat) :
    (entries.take count).filterMap result? =
      (entries.filterMap result?).take count := by
  induction entries generalizing count with
  | nil => simp
  | cons entry entries inductionHypothesis =>
      rcases all entry (List.mem_cons_self ..) with ⟨result, found⟩
      have others := inductionHypothesis fun other member =>
        all other (List.mem_cons_of_mem entry member)
      cases count with
      | zero => simp
      | succ count => simp [List.filterMap_cons_some found, others]

theorem length_filterMap
    {β γ : Type}
    {result? : β → Option γ}
    {entries : List β}
    (all : ∀ entry ∈ entries, ∃ result, result? entry = some result) :
    (entries.filterMap result?).length = entries.length := by
  induction entries with
  | nil => rfl
  | cons entry entries inductionHypothesis =>
      rcases all entry (List.mem_cons_self ..) with ⟨result, found⟩
      have others := inductionHypothesis fun other member =>
        all other (List.mem_cons_of_mem entry member)
      simp [List.filterMap_cons_some found, others]

namespace DrawPlan

variable
    (plan : DrawPlan)
    (cell : Draw α)
    (engine : Engine)

/-- Draws where the cell of a run comes from. -/
def drawPick : Draw (Pick α) :=
  if plan.poolSize = 0 then return .fresh (← cell)
  else return .pooled (← Draw.longBelow plan.poolSize)

/-- The pool and the engine that is left after it was drawn. -/
def drawPool : Array α × Engine :=
  (Draw.repeated plan.poolSize cell).run engine

@[simp]
theorem size_drawPool :
    (plan.drawPool cell engine).1.size = plan.poolSize :=
  Draw.size_repeated cell plan.poolSize engine

/-- The pool is drawn first, and then the runs. -/
theorem drawRuns_draws (rows : Nat) :
    ∃ runs last,
      DrawsRuns (plan.drawPick cell) plan.runLengths.draw rows
          (plan.drawPool cell engine).2 runs last ∧
        (plan.drawRuns rows cell).run engine =
          (⟨(plan.drawPool cell engine).1, runs.toArray⟩, last) := by
  rcases
      drawRunsInto_draws (plan.drawPick cell) plan.runLengths.draw rows #[]
        (plan.drawPool cell engine).2 with
    ⟨runs, last, draws, runsEqual⟩
  refine ⟨runs, last, draws, ?_⟩
  have poolFirst :
      (plan.drawRuns rows cell).run engine =
        (fun drawn => (⟨(plan.drawPool cell engine).1, drawn.1⟩, drawn.2))
          ((drawRunsInto (plan.drawPick cell) plan.runLengths.draw rows #[]).run
            (plan.drawPool cell engine).2) :=
    rfl
  rw [poolFirst, runsEqual]
  simp

/-- A pick is a fresh cell where there is no pool, else a place of the pool. -/
theorem drawPick_cases :
    (plan.poolSize = 0 ∧
      (plan.drawPick cell).run engine =
        (.fresh (cell.run engine).1, (cell.run engine).2)) ∨
    ∃ place,
      place < plan.poolSize ∧
        ((plan.drawPick cell).run engine).1 = .pooled place := by
  by_cases noPool : plan.poolSize = 0
  · refine .inl ⟨noPool, ?_⟩
    rw [drawPick, if_pos noPool]
    rfl
  · refine .inr ⟨((Draw.longBelow plan.poolSize).run engine).1, ?_, ?_⟩
    · exact Draw.longBelow_lt (Nat.pos_of_ne_zero noPool) engine
    · rw [drawPick, if_neg noPool]
      rfl

/-- What is picked has a cell, if the pool has all of its places. -/
theorem exists_cell?_drawPick
    {drawn : DrawnRuns α}
    (complete : drawn.pool.size = plan.poolSize) :
    ∃ found, drawn.cell? ((plan.drawPick cell).run engine).1 = some found := by
  rcases plan.drawPick_cases cell engine with ⟨-, fresh⟩ | ⟨place, inside, pooled⟩
  · rw [fresh]
    exact ⟨_, rfl⟩
  · rw [pooled]
    rw [← complete] at inside
    exact ⟨drawn.pool[place], Array.getElem?_eq_getElem inside⟩

theorem drawRuns_grounded (rows : Nat) :
    ((plan.drawRuns rows cell).run engine).1.Grounded := by
  rcases plan.drawRuns_draws cell engine rows with
    ⟨runs, last, draws, drawnEqual⟩
  rw [drawnEqual]
  intro run member
  refine
    draws.pick_property
      (fun picked =>
        ∃ found,
          DrawnRuns.cell? ⟨(plan.drawPool cell engine).1, runs.toArray⟩
            picked = some found)
      ?_ run (by simpa using member)
  intro current
  exact plan.exists_cell?_drawPick cell current (plan.size_drawPool cell engine)

/-- The pool does not depend on the rows. -/
theorem pool_drawRuns (rows : Nat) :
    ((plan.drawRuns rows cell).run engine).1.pool =
      (plan.drawPool cell engine).1 := by
  rcases plan.drawRuns_draws cell engine rows with
    ⟨runs, last, draws, drawnEqual⟩
  rw [drawnEqual]

theorem size_cells_drawRuns (rows : Nat) :
    ((plan.drawRuns rows cell).run engine).1.cells.size = rows := by
  have grounded := plan.drawRuns_grounded cell engine rows
  rcases plan.drawRuns_draws cell engine rows with
    ⟨runs, last, draws, drawnEqual⟩
  rw [drawnEqual] at grounded ⊢
  rw [← Array.length_toList, DrawnRuns.toList_cells,
    length_filterMap (grounded.rowPicks), draws.length_rowPicks]

theorem drawRuns_fills (rows : Nat) :
    ((plan.drawRuns rows cell).run engine).1.Fills rows where
  grounded := plan.drawRuns_grounded cell engine rows
  positive := by
    rcases plan.drawRuns_draws cell engine rows with
      ⟨runs, last, draws, drawnEqual⟩
    rw [drawnEqual]
    simpa using draws.length_pos
  size_cells := plan.size_cells_drawRuns cell engine rows

/-- Fewer rows have the cells of the first rows. -/
theorem cells_drawRuns_take
    {rows more : Nat}
    (fewer : rows ≤ more) :
    ((plan.drawRuns rows cell).run engine).1.cells.toList =
      ((plan.drawRuns more cell).run engine).1.cells.toList.take rows := by
  have grounded := plan.drawRuns_grounded cell engine more
  rcases plan.drawRuns_draws cell engine rows with
    ⟨shortRuns, shortLast, shortDraws, shortEqual⟩
  rcases plan.drawRuns_draws cell engine more with
    ⟨runs, last, draws, drawnEqual⟩
  rw [drawnEqual] at grounded ⊢
  rw [shortEqual, DrawnRuns.toList_cells, DrawnRuns.toList_cells,
    ← filterMap_take grounded.rowPicks, shortDraws.rowPicks_take draws fewer]
  rfl

/-- With a pool, the cell of every row is one of the pool. -/
theorem mem_pool_of_mem_cells
    {rows : Nat}
    {found : α}
    (pooled : plan.poolSize ≠ 0)
    (member : found ∈ ((plan.drawRuns rows cell).run engine).1.cells) :
    found ∈ (plan.drawPool cell engine).1 := by
  rcases plan.drawRuns_draws cell engine rows with
    ⟨runs, last, draws, drawnEqual⟩
  rw [drawnEqual] at member
  rcases DrawnRuns.exists_run_of_mem_cells member with
    ⟨run, runMember, foundEqual⟩
  have inPool :=
    draws.pick_property (fun picked => ∃ place, picked = .pooled place)
      (by
        intro current
        rcases plan.drawPick_cases cell current with ⟨noPool, -⟩ | ⟨place, -, equal⟩
        · exact (pooled noPool).elim
        · exact ⟨place, equal⟩)
      run (by simpa using runMember)
  rcases inPool with ⟨place, placeEqual⟩
  rw [placeEqual] at foundEqual
  exact Array.mem_of_getElem? foundEqual

/-- What holds of every cell that can be drawn holds of the cells of all rows. -/
theorem cells_property
    (property : α → Prop)
    {cell : Draw α}
    (cellHas : ∀ engine, property (cell.run engine).1)
    (rows : Nat) :
    ∀ found ∈ ((plan.drawRuns rows cell).run engine).1.cells, property found := by
  rcases plan.drawRuns_draws cell engine rows with
    ⟨runs, last, draws, drawnEqual⟩
  have pickHas :=
    draws.pick_property
      (fun picked =>
        ∀ found,
          DrawnRuns.cell? ⟨(plan.drawPool cell engine).1, runs.toArray⟩
              picked = some found →
            property found)
      (by
        intro current found foundEqual
        rcases plan.drawPick_cases cell current with ⟨-, fresh⟩ | ⟨place, -, pooled⟩
        · rw [fresh] at foundEqual
          cases foundEqual
          exact cellHas current
        · rw [pooled] at foundEqual
          exact
            Draw.repeated_property property cellHas plan.poolSize engine found
              (Array.mem_of_getElem? foundEqual))
  intro found member
  rw [drawnEqual] at member
  rcases DrawnRuns.exists_run_of_mem_cells member with
    ⟨run, runMember, foundEqual⟩
  exact pickHas run (by simpa using runMember) found foundEqual

/--
Without a pool and with runs of one row, the cells are drawn one after the
other, as the cells of a pool are, and nothing else is drawn.
-/
theorem drawRuns_of_fresh
    (noPool : plan.poolSize = 0)
    (noRuns : plan.runLengths.gamma? = none)
    (rows : Nat) :
    ((plan.drawRuns rows cell).run engine).1.cells =
        ((Draw.repeated rows cell).run engine).1 ∧
      ((plan.drawRuns rows cell).run engine).2 =
        ((Draw.repeated rows cell).run engine).2 := by
  rcases plan.drawRuns_draws cell engine rows with
    ⟨runs, last, draws, drawnEqual⟩
  have lengthOne : plan.runLengths.draw = pure 1 := by
    rw [RunLengths.draw, noRuns]
  have poolEmpty : plan.drawPool cell engine = (#[], engine) := by
    rw [drawPool, noPool, Draw.repeated_zero_run]
  have fresh :
      ∀ current,
        (plan.drawPick cell).run current =
          (.fresh (cell.run current).1, (cell.run current).2) := by
    intro current
    rcases plan.drawPick_cases cell current with ⟨-, equal⟩ | ⟨place, inside, -⟩
    · exact equal
    · omega
  rw [lengthOne, poolEmpty] at draws
  rcases draws.of_fresh fresh with ⟨picks, lastEqual⟩
  rw [drawnEqual]
  refine ⟨?_, lastEqual⟩
  apply Array.toList_inj.1
  rw [DrawnRuns.toList_cells]
  show (rowPicks runs).filterMap _ = _
  rw [picks, List.filterMap_map]
  exact List.filterMap_some

end DrawPlan

end SyntheticTable
