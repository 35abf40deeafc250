import SyntheticTable.Proofs.DrawnCells
import SyntheticTable.Proofs.Failure
import SyntheticTable.Proofs.FillPasses

/-!
# Filling rows pass by pass

A column is filled by two loops.  The first fills a pool, one drawn cell for
each place.  The second fills the rows: a pass fills one row, from the pool or
with a cell of its own, draws how many rows the run takes, and copies the row
into those behind it.  The cells are drawn while the rows are filled, and every
row and place that is used is checked.

Whatever the buffers are, it is enough to know how they take cells: that a cell
is put behind those they hold, that a row of a pool is put like its cell, and
that a row is copied by putting its cell again.  Then both loops make progress,
and the rows are filled with the cells that `DrawPlan.drawRuns` draws in
advance.
-/

namespace SyntheticTable

/-! ## Lengths of runs -/

/-- How the lengths of runs are drawn. -/
inductive RunRule where
  /-- Every run is one row, and nothing is read to decide it. -/
  | single
  /-- A number is sampled, which may be any or none. -/
  | sampled (sampler : Draw Float32)

namespace RunRule

/-- The rule of the lengths of a plan. -/
def ofLengths (lengths : RunLengths) : RunRule :=
  match lengths.gamma? with
  | some gamma => sampled gamma.draw
  | none => single

/-- A sampled number as a number of rows. -/
def rowsOf (sampled : Float32) : Nat :=
  sampled.round.toUInt64.toNat

/-- Draws a length before it is cut to the rows that remain. -/
def drawUncut : RunRule → Draw Nat
  | single => return 1
  | sampled sampler => return rowsOf (← sampler)

/-- A length cut to the rows that remain, of which there has to be one. -/
def cut? (length remaining : Nat) : Except FillFault Nat :=
  if 1 ≤ remaining then .ok (max 1 (min length remaining))
  else .error .noRowRemains

/--
Draws a length and cuts it to the rows that remain; where each run is one row
they are not looked at.
-/
def draw : RunRule → (remaining : Nat) → CheckedDraw Nat
  | single, _ => return 1
  | sampled sampler, remaining => do
      let number ← (sampler : Draw Float32)
      cut? (rowsOf number) remaining

theorem drawUncut_ofLengths (lengths : RunLengths) :
    (ofLengths lengths).drawUncut = lengths.draw := by
  unfold ofLengths RunLengths.draw
  cases lengths.gamma? <;> rfl

/-- Where some row remains, a length is cut and drawing it does not break off. -/
theorem draw_run
    {rule : RunRule}
    {remaining length : Nat}
    {engine rest : Engine}
    (someRow : 0 < remaining)
    (drawn : rule.drawUncut.run engine = (length, rest)) :
    (rule.draw remaining).run.run engine =
      (.ok (cutLength length remaining), rest) := by
  cases rule with
  | single =>
      cases drawn
      have cut : cutLength 1 remaining = 1 := by
        rw [cutLength]
        omega
      rw [cut]
      rfl
  | sampled sampler =>
      rcases sampledNumber : sampler.run engine with ⟨number, afterSample⟩
      have uncut :
          (sampled sampler).drawUncut.run engine = (rowsOf number, afterSample) := by
        rw [drawUncut, StateT.run_bind, sampledNumber]
        rfl
      cases uncut.symm.trans drawn
      rw [draw, CheckedDraw.run_bind_of_ok (CheckedDraw.run_draw sampledNumber),
        CheckedDraw.run_computed, cut?, if_pos (show 1 ≤ remaining from someRow)]
      rfl

/-- A length that is drawn is one row at least and no more rows than remain. -/
theorem exists_draw_run
    (rule : RunRule)
    {remaining : Nat}
    (someRow : 0 < remaining)
    (engine : Engine) :
    ∃ length rest,
      (rule.draw remaining).run.run engine = (.ok length, rest) ∧
        1 ≤ length ∧ length ≤ remaining := by
  rcases drawn : rule.drawUncut.run engine with ⟨length, rest⟩
  exact ⟨_, rest, draw_run someRow drawn, cutLength_pos length remaining,
    cutLength_le someRow length⟩

end RunRule

/-! ## Loops over rows -/

/-- How rows are filled in buffers. -/
structure Filler (Cell Buffers : Type) where
  /-- The buffers for a number of rows in which nothing is filled. -/
  start : (rows : Nat) → Buffers
  /-- Fills a row with a cell. -/
  put : Buffers → (row : Nat) → Cell → Except FillFault Buffers
  /-- Fills a row with the row of a pool at a place. -/
  copy : Buffers → (row : Nat) → (pool : Buffers) → (place : Nat) → Except FillFault Buffers
  /-- Fills a number of rows behind a row with copies of it. -/
  stretch : Buffers → (row times : Nat) → Except FillFault Buffers

namespace Filler

variable
    {Cell Buffers : Type}
    (filler : Filler Cell Buffers)

/-- Fills a row with what was picked for it. -/
def place (pool buffers : Buffers) (row : Nat) : Pick Cell → Except FillFault Buffers
  | .pooled place => filler.copy buffers row pool place
  | .fresh cell => filler.put buffers row cell

/-- One pass over the pool: a place is filled with a drawn cell. -/
def poolPass (cell : Draw Cell) : Pass Buffers :=
  fun state => do
    let drawn ← (cell : Draw Cell)
    let longer ← filler.put state.buffers state.row drawn
    return ⟨state.row + 1, longer⟩

theorem poolPass_run
    (cell : Draw Cell)
    (state : Filling Buffers)
    (engine : Engine) :
    (filler.poolPass cell state).run.run engine =
      ((filler.put state.buffers state.row (cell.run engine).1).map
        (⟨state.row + 1, ·⟩), (cell.run engine).2) := by
  rcases drawn : cell.run engine with ⟨value, rest⟩
  rw [poolPass, CheckedDraw.run_bind_of_ok (CheckedDraw.run_draw drawn),
    CheckedDraw.run_computed_map]

/-- One pass over the rows: a row is filled and stretched into a run. -/
def runPass
    (plan : DrawPlan)
    (cell : Draw Cell)
    (rule : RunRule)
    (rows : Nat)
    (pool : Buffers) :
    Pass Buffers :=
  fun state => do
    let picked ← (plan.drawPick cell : Draw (Pick Cell))
    let head ← filler.place pool state.buffers state.row picked
    let length ← rule.draw (rows - state.row)
    let stretched ← filler.stretch head state.row (length - 1)
    return ⟨state.row + length, stretched⟩

/-- Both loops of a column that is filled make progress, from an engine on. -/
structure MakesProgress
    (plan : DrawPlan)
    (cell : Draw Cell)
    (rule : RunRule)
    (rows : Nat)
    (kept : (rows : Nat) → Filling Buffers → Prop)
    (refusal : FillFault → Prop)
    (engine : Engine) : Prop where
  pool :
    Progresses (filler.poolPass cell) plan.poolSize (kept plan.poolSize) refusal
      ⟨0, filler.start plan.poolSize⟩ engine
  rows :
    ∀ {pool : Filling Buffers} {afterPool : Engine},
      Ends (filler.poolPass cell) plan.poolSize ⟨0, filler.start plan.poolSize⟩
          engine (.ok pool) afterPool →
        Progresses (filler.runPass plan cell rule rows pool.buffers) rows
          (kept rows) refusal ⟨0, filler.start rows⟩ afterPool

/-- How filling a column ends: the pool is filled first, and then the rows. -/
inductive Fills
    (plan : DrawPlan)
    (cell : Draw Cell)
    (rule : RunRule)
    (rows : Nat)
    (engine : Engine) :
    Except FillFault Buffers → Engine → Prop where
  | withoutPool
      {fault : FillFault}
      {last : Engine}
      (poolEnded :
        Ends (filler.poolPass cell) plan.poolSize
          ⟨0, filler.start plan.poolSize⟩ engine (.error fault) last) :
      Fills plan cell rule rows engine (.error fault) last
  | withPool
      {pool : Filling Buffers}
      {outcome : Except FillFault (Filling Buffers)}
      {afterPool last : Engine}
      (poolEnded :
        Ends (filler.poolPass cell) plan.poolSize
          ⟨0, filler.start plan.poolSize⟩ engine (.ok pool) afterPool)
      (ended :
        Ends (filler.runPass plan cell rule rows pool.buffers) rows
          ⟨0, filler.start rows⟩ afterPool outcome last) :
      Fills plan cell rule rows engine (outcome.map Filling.buffers) last

/-- Fills rows with cells, one after the other. -/
def putAll (buffers : Buffers) (row : Nat) : List Cell → Except FillFault Buffers
  | [] => .ok buffers
  | cell :: cells => do
      let longer ← filler.put buffers row cell
      putAll longer (row + 1) cells

/-- Fills a pool and a column with cells that were drawn in advance. -/
def putDrawn (rows : Nat) (drawn : DrawnRuns Cell) : Except FillFault Buffers := do
  let _ ← filler.putAll (filler.start drawn.pool.size) 0 drawn.pool.toList
  filler.putAll (filler.start rows) 0 drawn.cells.toList

theorem map_buffers
    (filled : Except FillFault Buffers)
    (row : Nat) :
    (filled.map (Filling.mk row)).map Filling.buffers = filled := by
  cases filled <;> rfl

theorem putAll_append
    (buffers : Buffers)
    (row : Nat)
    (cells more : List Cell) :
    filler.putAll buffers row (cells ++ more) =
      filler.putAll buffers row cells >>= fun longer =>
        filler.putAll longer (row + cells.length) more := by
  induction cells generalizing buffers row with
  | nil => rfl
  | cons cell cells inductionHypothesis =>
      have places : row + (cell :: cells).length = row + 1 + cells.length := by
        rw [List.length_cons]
        omega
      simp only [List.cons_append, putAll, inductionHypothesis, places, bind_assoc]

/-! ## Buffers that hold cells -/

/--
What is known of a filler: which buffers hold cells, and that cells are put one
behind the other, from wherever they are taken.
-/
structure Keeps
    (Holds : (rows : Nat) → List Cell → Buffers → Prop)
    (refusal : FillFault → Prop) : Prop where
  start : ∀ rows, Holds rows [] (filler.start rows)
  put :
    ∀ {rows : Nat} {cells : List Cell} {buffers : Buffers} (cell : Cell),
      Holds rows cells buffers →
        cells.length < rows →
          (∃ longer,
            filler.put buffers cells.length cell = .ok longer ∧
              Holds rows (cells ++ [cell]) longer) ∨
          ∃ fault,
            filler.put buffers cells.length cell = .error fault ∧ refusal fault
  copy :
    ∀ {rows size place : Nat} {cells poolCells : List Cell}
      {buffers pool : Buffers} {cell : Cell},
      Holds rows cells buffers →
        Holds size poolCells pool →
          place < size →
            poolCells[place]? = some cell →
              filler.copy buffers cells.length pool place =
                filler.put buffers cells.length cell
  stretch :
    ∀ {rows : Nat} {cells : List Cell} {buffers : Buffers} {cell : Cell}
      (times : Nat),
      Holds rows (cells ++ [cell]) buffers →
        cells.length + 1 + times ≤ rows →
          filler.stretch buffers cells.length times =
            filler.putAll buffers (cells.length + 1) (List.replicate times cell)

/-- The buffers of a filling hold a cell for each row that it has filled. -/
structure HoldsRows
    (Holds : (rows : Nat) → List Cell → Buffers → Prop)
    (rows : Nat)
    (state : Filling Buffers) : Prop where
  inside : state.row ≤ rows
  holds : ∃ cells, cells.length = state.row ∧ Holds rows cells state.buffers

namespace Keeps

variable
    {Cell Buffers : Type}
    {filler : Filler Cell Buffers}
    {Holds : (rows : Nat) → List Cell → Buffers → Prop}
    {refusal : FillFault → Prop}
    {rows : Nat}
    {cells : List Cell}
    {buffers : Buffers}

/-- Cells that find their rows are put behind those that are held, or refused. -/
theorem putAll
    (keeps : filler.Keeps Holds refusal)
    (more : List Cell)
    (holds : Holds rows cells buffers)
    (inside : cells.length + more.length ≤ rows) :
    (∃ longer,
      filler.putAll buffers cells.length more = .ok longer ∧
        Holds rows (cells ++ more) longer) ∨
    ∃ fault,
      filler.putAll buffers cells.length more = .error fault ∧ refusal fault := by
  induction more generalizing cells buffers with
  | nil => exact .inl ⟨buffers, rfl, by simpa using holds⟩
  | cons cell more inductionHypothesis =>
      rw [List.length_cons] at inside
      rw [Filler.putAll]
      rcases keeps.put cell holds (by omega) with
        ⟨longer, put, longerHolds⟩ | ⟨fault, refused, isRefusal⟩
      · have others :=
          inductionHypothesis longerHolds
            (by rw [List.length_append, List.length_singleton]; omega)
        rw [List.length_append, List.length_singleton, List.append_assoc,
          List.singleton_append] at others
        rw [put]
        exact others
      · rw [refused]
        exact .inr ⟨fault, rfl, isRefusal⟩

theorem place_eq
    {drawn : DrawnRuns Cell}
    {picked : Pick Cell}
    {own : Cell}
    {pool : Buffers}
    (keeps : filler.Keeps Holds refusal)
    (holds : Holds rows cells buffers)
    (poolHolds : Holds drawn.pool.size drawn.pool.toList pool)
    (found : drawn.cell? picked = some own) :
    filler.place pool buffers cells.length picked =
      filler.put buffers cells.length own := by
  cases picked with
  | pooled place =>
      rcases Array.getElem?_eq_some_iff.1 found with ⟨inside, -⟩
      exact keeps.copy holds poolHolds inside (Array.getElem?_toList.trans found)
  | fresh cell =>
      cases found
      rfl

/--
A pass over the rows puts the cell that was picked in as many rows as the run
takes; if they are not refused, the engine is left behind the length.
-/
theorem exists_runPass_run
    {plan : DrawPlan}
    {cell : Draw Cell}
    {rule : RunRule}
    {drawn : DrawnRuns Cell}
    {picked : Pick Cell}
    {own : Cell}
    {pool : Buffers}
    {length : Nat}
    {engine afterPick afterLength : Engine}
    (keeps : filler.Keeps Holds refusal)
    (holds : Holds rows cells buffers)
    (poolHolds : Holds drawn.pool.size drawn.pool.toList pool)
    (goesOn : cells.length < rows)
    (pickDrawn : (plan.drawPick cell).run engine = (picked, afterPick))
    (found : drawn.cell? picked = some own)
    (lengthDrawn : rule.drawUncut.run afterPick = (length, afterLength)) :
    ∃ last,
      (filler.runPass plan cell rule rows pool ⟨cells.length, buffers⟩).run.run
            engine =
          ((filler.putAll buffers cells.length
              (List.replicate (cutLength length (rows - cells.length)) own)).map
            (⟨cells.length + cutLength length (rows - cells.length), ·⟩), last) ∧
        ∀ longer,
          filler.putAll buffers cells.length
              (List.replicate (cutLength length (rows - cells.length)) own) =
            .ok longer →
              last = afterLength := by
  have someRow : 0 < rows - cells.length := by omega
  obtain ⟨times, cut⟩ :
      ∃ times, cutLength length (rows - cells.length) = times + 1 :=
    Nat.exists_eq_add_one.2 (cutLength_pos _ _)
  have remain := cutLength_le someRow length
  have placed := keeps.place_eq holds poolHolds found
  have cutDrawn := RunRule.draw_run someRow lengthDrawn
  rw [cut] at remain cutDrawn ⊢
  rw [List.replicate_succ, Filler.putAll, runPass,
    CheckedDraw.run_bind_of_ok (CheckedDraw.run_draw pickDrawn)]
  rcases keeps.put own holds goesOn with
    ⟨head, put, headHolds⟩ | ⟨fault, refused, -⟩
  · have headRun :
        (liftM (filler.place pool buffers cells.length picked) :
            CheckedDraw Buffers).run.run afterPick =
          (.ok head, afterPick) := by
      rw [CheckedDraw.run_computed, placed, put]
    have stretched := keeps.stretch times headHolds (by omega)
    rw [CheckedDraw.run_bind_of_ok headRun, CheckedDraw.run_bind_of_ok cutDrawn,
      Nat.add_sub_cancel, stretched, CheckedDraw.run_computed_map, put]
    exact ⟨afterLength, rfl, fun _ _ => rfl⟩
  · have headRun :
        (liftM (filler.place pool buffers cells.length picked) :
            CheckedDraw Buffers).run.run afterPick =
          (.error fault, afterPick) := by
      rw [CheckedDraw.run_computed, placed, refused]
    rw [CheckedDraw.run_bind_of_error headRun, refused]
    refine ⟨afterPick, rfl, ?_⟩
    intro longer filled
    cases filled

/-! ## Progress -/

theorem start_holdsRows
    (keeps : filler.Keeps Holds refusal)
    (rows : Nat) :
    HoldsRows Holds rows ⟨0, filler.start rows⟩ :=
  ⟨Nat.zero_le rows, [], rfl, keeps.start rows⟩

theorem poolPass_advances
    {state : Filling Buffers}
    (keeps : filler.Keeps Holds refusal)
    (cell : Draw Cell)
    (engine : Engine)
    (holds : HoldsRows Holds rows state)
    (goesOn : state.row < rows) :
    Advances (filler.poolPass cell) rows (HoldsRows Holds rows) refusal state
      engine := by
  rcases state with ⟨row, buffers⟩
  rcases holds with ⟨inside, cells, rfl, holds⟩
  have ran := filler.poolPass_run cell ⟨cells.length, buffers⟩ engine
  rcases keeps.put (cell.run engine).1 holds goesOn with
    ⟨longer, put, longerHolds⟩ | ⟨fault, refused, isRefusal⟩
  · rw [put] at ran
    exact .fills ran (Nat.le_refl 1) (Nat.sub_pos_of_lt goesOn) rfl
      ⟨goesOn, _, List.length_append, longerHolds⟩
  · rw [refused] at ran
    exact .refused ran isRefusal

theorem runPass_advances
    {plan : DrawPlan}
    {poolCells : Array Cell}
    {pool : Buffers}
    {state : Filling Buffers}
    (keeps : filler.Keeps Holds refusal)
    (cell : Draw Cell)
    (rule : RunRule)
    (engine : Engine)
    (poolHolds : Holds poolCells.size poolCells.toList pool)
    (complete : poolCells.size = plan.poolSize)
    (holds : HoldsRows Holds rows state)
    (goesOn : state.row < rows) :
    Advances (filler.runPass plan cell rule rows pool) rows
      (HoldsRows Holds rows) refusal state engine := by
  rcases state with ⟨row, buffers⟩
  rcases holds with ⟨inside, cells, rfl, holds⟩
  have goesOn : cells.length < rows := goesOn
  let drawn : DrawnRuns Cell := ⟨poolCells, #[]⟩
  rcases pickDrawn : (plan.drawPick cell).run engine with ⟨picked, afterPick⟩
  rcases lengthDrawn : rule.drawUncut.run afterPick with ⟨length, afterLength⟩
  obtain ⟨own, found⟩ : ∃ own, drawn.cell? picked = some own := by
    have found :
        ∃ own, drawn.cell? ((plan.drawPick cell).run engine).1 = some own :=
      plan.exists_cell?_drawPick cell engine complete
    rwa [pickDrawn] at found
  rcases
      keeps.exists_runPass_run holds poolHolds goesOn pickDrawn found
        lengthDrawn with
    ⟨last, ran, -⟩
  have someRow := cutLength_pos length (rows - cells.length)
  have remain := cutLength_le (Nat.sub_pos_of_lt goesOn) length
  generalize cutLength length (rows - cells.length) = cut at ran someRow remain
  have within : cells.length + cut ≤ rows := by omega
  rcases
      keeps.putAll (List.replicate cut own) holds
        (by rw [List.length_replicate]; exact within) with
    ⟨longer, put, longerHolds⟩ | ⟨fault, refused, isRefusal⟩
  · rw [put] at ran
    refine .fills ran someRow remain rfl ⟨within, _, ?_, longerHolds⟩
    rw [List.length_append, List.length_replicate]
  · rw [refused] at ran
    exact .refused ran isRefusal

/-- A pool that was filled holds a cell for each of its places. -/
theorem exists_cells_of_poolEnded
    {size : Nat}
    {cell : Draw Cell}
    {pool : Filling Buffers}
    {engine afterPool : Engine}
    (keeps : filler.Keeps Holds refusal)
    (ended :
      Ends (filler.poolPass cell) size ⟨0, filler.start size⟩ engine (.ok pool)
        afterPool) :
    ∃ cells : Array Cell,
      cells.size = size ∧ Holds cells.size cells.toList pool.buffers := by
  cases ended with
  | filled reached full =>
      rcases
          (reached.keeps (HoldsRows Holds size)
            (fun holds goesOn => keeps.poolPass_advances cell _ holds goesOn)
            (keeps.start_holdsRows size)).2 with
        ⟨inside, cells, count, holds⟩
      have complete : cells.toArray.size = size := by
        rw [List.size_toArray]
        omega
      refine ⟨cells.toArray, complete, ?_⟩
      rw [complete]
      exact holds

theorem makesProgress
    {kept : (rows : Nat) → Filling Buffers → Prop}
    (keeps : filler.Keeps Holds refusal)
    (isKept : ∀ {rows state}, HoldsRows Holds rows state → kept rows state)
    (plan : DrawPlan)
    (cell : Draw Cell)
    (rule : RunRule)
    (rows : Nat)
    (engine : Engine) :
    filler.MakesProgress plan cell rule rows kept refusal engine where
  pool :=
    .of_invariant (HoldsRows Holds plan.poolSize)
      (fun holds goesOn => keeps.poolPass_advances cell _ holds goesOn)
      (keeps.start_holdsRows plan.poolSize)
      fun holds => ⟨holds.inside, isKept holds⟩
  rows := by
    intro pool afterPool ended
    rcases keeps.exists_cells_of_poolEnded ended with
      ⟨poolCells, complete, poolHolds⟩
    exact
      .of_invariant (HoldsRows Holds rows)
        (fun holds goesOn =>
          keeps.runPass_advances cell rule _ poolHolds complete holds goesOn)
        (keeps.start_holdsRows rows)
        fun holds => ⟨holds.inside, isKept holds⟩

/-! ## Cells drawn in advance -/

/--
The loop over the pool ends as putting cells does that were drawn in advance;
if none is refused, the engine is left where drawing them has left it.
-/
theorem exists_ends_poolPass
    (keeps : filler.Keeps Holds refusal)
    (cell : Draw Cell)
    (count : Nat)
    (engine : Engine)
    (holds : Holds rows cells buffers)
    (complete : cells.length + count = rows) :
    ∃ last,
      Ends (filler.poolPass cell) rows ⟨cells.length, buffers⟩ engine
          ((filler.putAll buffers cells.length
            ((Draw.repeated count cell).run engine).1.toList).map (⟨rows, ·⟩))
          last ∧
        ∀ longer,
          filler.putAll buffers cells.length
              ((Draw.repeated count cell).run engine).1.toList =
            .ok longer →
              last = ((Draw.repeated count cell).run engine).2 := by
  induction count generalizing cells buffers engine with
  | zero =>
      subst complete
      exact ⟨engine, .filled .start (Nat.le_refl _), fun _ _ => rfl⟩
  | succ count inductionHypothesis =>
      have goesOn : cells.length < rows := by omega
      have ran := filler.poolPass_run cell ⟨cells.length, buffers⟩ engine
      rw [Draw.repeated_succ_run, Array.toList_append, List.singleton_append,
        Filler.putAll]
      rcases keeps.put (cell.run engine).1 holds goesOn with
        ⟨longer, put, longerHolds⟩ | ⟨fault, refused, -⟩
      · rw [put] at ran ⊢
        have count : (cells ++ [(cell.run engine).1]).length = cells.length + 1 :=
          List.length_append
        rcases
            inductionHypothesis (cell.run engine).2 longerHolds (by omega) with
          ⟨last, ended, lastEqual⟩
        rw [count] at ended lastEqual
        exact ⟨last, ended.of_pass goesOn ran, lastEqual⟩
      · rw [refused] at ran ⊢
        exact ⟨_, .brokenOff .start goesOn ran, fun _ filled => by cases filled⟩

/--
The loop over the rows ends as putting the cells of runs does that were drawn in
advance, each of them in one pass; if none is refused, the engine is left where
drawing them has left it.
-/
theorem exists_ends_runPass
    {plan : DrawPlan}
    {cell : Draw Cell}
    {rule : RunRule}
    {drawn : DrawnRuns Cell}
    {pool : Buffers}
    {remaining : Nat}
    {engine afterRuns : Engine}
    {runs : List (Run Cell)}
    (keeps : filler.Keeps Holds refusal)
    (draws :
      DrawsRuns (plan.drawPick cell) rule.drawUncut remaining engine runs
        afterRuns)
    (grounded : ∀ run ∈ runs, ∃ own, drawn.cell? run.pick = some own)
    (poolHolds : Holds drawn.pool.size drawn.pool.toList pool)
    (holds : Holds rows cells buffers)
    (complete : cells.length + remaining = rows) :
    ∃ last,
      Ends (filler.runPass plan cell rule rows pool) rows
          ⟨cells.length, buffers⟩ engine
          ((filler.putAll buffers cells.length
            ((rowPicks runs).filterMap drawn.cell?)).map (⟨rows, ·⟩))
          last ∧
        ∀ longer,
          filler.putAll buffers cells.length
              ((rowPicks runs).filterMap drawn.cell?) =
            .ok longer →
              last = afterRuns := by
  induction draws generalizing cells buffers with
  | done engine =>
      subst complete
      exact ⟨engine, .filled .start (Nat.le_refl _), fun _ _ => rfl⟩
  | @run remaining cut engine afterPick afterLength last picked length rest
      pickDrawn lengthDrawn cutEqual others inductionHypothesis =>
      rcases grounded _ (List.mem_cons_self ..) with ⟨own, found⟩
      have remain : rows - cells.length = remaining + 1 := by omega
      have cutSmall : cut ≤ remaining + 1 := by
        rw [cutEqual]
        exact cutLength_le (Nat.succ_pos remaining) length
      rcases
          keeps.exists_runPass_run holds poolHolds (by omega) pickDrawn found
            lengthDrawn with
        ⟨afterPass, ran, afterPassEqual⟩
      rw [remain, ← cutEqual] at ran afterPassEqual
      rw [rowPicks_cons, List.filterMap_append,
        List.filterMap_replicate_of_some found, putAll_append,
        List.length_replicate]
      rcases
          keeps.putAll (List.replicate cut own) holds
            (by rw [List.length_replicate]; omega) with
        ⟨longer, put, longerHolds⟩ | ⟨fault, refused, -⟩
      · have count :
            (cells ++ List.replicate cut own).length = cells.length + cut := by
          rw [List.length_append, List.length_replicate]
        rw [put] at ran ⊢
        cases afterPassEqual longer put
        rcases
            inductionHypothesis
              (fun run member => grounded run (List.mem_cons_of_mem _ member))
              longerHolds (by omega) with
          ⟨last, ended, lastEqual⟩
        rw [count] at ended lastEqual
        exact ⟨last, ended.of_pass (by show cells.length < rows; omega) ran, lastEqual⟩
      · rw [refused] at ran ⊢
        exact ⟨_, .brokenOff .start (by show cells.length < rows; omega) ran,
          fun _ filled => by cases filled⟩

/--
A column is filled with the cells of the runs that are drawn in advance; if none
is refused, the engine is left where drawing them has left it.
-/
theorem exists_fills_drawRuns
    (keeps : filler.Keeps Holds refusal)
    (plan : DrawPlan)
    (cell : Draw Cell)
    (rows : Nat)
    (engine : Engine) :
    ∃ last,
      filler.Fills plan cell (.ofLengths plan.runLengths) rows engine
          (filler.putDrawn rows ((plan.drawRuns rows cell).run engine).1) last ∧
        ∀ buffers,
          filler.putDrawn rows ((plan.drawRuns rows cell).run engine).1 =
            .ok buffers →
              last = ((plan.drawRuns rows cell).run engine).2 := by
  rcases plan.drawRuns_draws cell engine rows with
    ⟨runs, afterRuns, draws, drawnEqual⟩
  have grounded := plan.drawRuns_grounded cell engine rows
  have poolSize := plan.size_drawPool cell engine
  rw [drawnEqual] at grounded ⊢
  rw [← RunRule.drawUncut_ofLengths] at draws
  rw [putDrawn, DrawnRuns.toList_cells, poolSize]
  obtain ⟨afterPool, poolEnded, afterPoolEqual⟩ :
      ∃ afterPool,
        Ends (filler.poolPass cell) plan.poolSize
            ⟨0, filler.start plan.poolSize⟩ engine
            ((filler.putAll (filler.start plan.poolSize) 0
              (plan.drawPool cell engine).1.toList).map (⟨plan.poolSize, ·⟩))
            afterPool ∧
          ∀ pool,
            filler.putAll (filler.start plan.poolSize) 0
                (plan.drawPool cell engine).1.toList =
              .ok pool →
                afterPool = (plan.drawPool cell engine).2 :=
    keeps.exists_ends_poolPass cell plan.poolSize engine
      (keeps.start plan.poolSize) (Nat.zero_add _)
  have poolHeld :
      (∃ pool,
        filler.putAll (filler.start plan.poolSize) 0
            (plan.drawPool cell engine).1.toList =
          .ok pool ∧
            Holds plan.poolSize (plan.drawPool cell engine).1.toList pool) ∨
      ∃ fault,
        filler.putAll (filler.start plan.poolSize) 0
            (plan.drawPool cell engine).1.toList =
          .error fault ∧ refusal fault :=
    keeps.putAll (plan.drawPool cell engine).1.toList
      (keeps.start plan.poolSize) (by simp)
  rcases poolHeld with ⟨pool, put, poolHolds⟩ | ⟨fault, refused, -⟩
  · -- The runs are drawn on from where the pool has left the engine.
    cases afterPoolEqual pool put
    rw [put] at poolEnded ⊢
    rcases
        keeps.exists_ends_runPass draws
          (fun run member => grounded run (List.mem_toArray.2 member))
          (by rw [poolSize]; exact poolHolds) (keeps.start rows)
          (Nat.zero_add _) with
      ⟨last, ended, lastEqual⟩
    have fills := Fills.withPool poolEnded ended
    rw [map_buffers] at fills
    exact ⟨last, fills, lastEqual⟩
  · rw [refused] at poolEnded ⊢
    exact ⟨afterPool, .withoutPool poolEnded, fun _ filled => by cases filled⟩

end Keeps

end Filler

end SyntheticTable
