import SyntheticTable.Proofs.DrawnCells
import SyntheticTable.Proofs.Failure
import SyntheticTable.Proofs.TextLayout

/-!
# Laying out drawn strings

A run copies its cell from the pool or takes a cell of its own, and repeats it
from the column itself.  Either way the bytes and the validity are those of
the cell, so a string column is laid out as if its cells were appended one by
one: it succeeds as soon as all bytes can be counted, and then it holds the
cells of the rows.
-/

namespace SyntheticTable

namespace StringColumn

/-- Appends cells one after the other. -/
def appendCells
    (column : StringColumn)
    (cells : List TextCell) :
    Except BuildError StringColumn :=
  cells.foldlM (fun column cell => column.append cell.chars cell.valid) column

@[simp]
theorem appendCells_nil (column : StringColumn) :
    column.appendCells [] = .ok column :=
  rfl

theorem appendCells_cons
    (column : StringColumn)
    (cell : TextCell)
    (cells : List TextCell) :
    column.appendCells (cell :: cells) =
      column.append cell.chars cell.valid >>= (·.appendCells cells) :=
  List.foldlM_cons

theorem appendCells_append
    (column : StringColumn)
    (cells more : List TextCell) :
    column.appendCells (cells ++ more) =
      column.appendCells cells >>= (·.appendCells more) :=
  List.foldlM_append

theorem append_eq_error
    {column : StringColumn}
    {record : Array UInt8}
    {valid : Bool}
    {error : BuildError}
    (refused : column.append record valid = .error error) :
    ∃ bytes, twoTo 31 ≤ bytes ∧ error = .textOverflow bytes := by
  rw [append_eq] at refused
  split at refused
  · cases refused
  · next overflow =>
      cases refused
      exact ⟨_, Nat.le_of_not_lt overflow, rfl⟩

/-- Cells are refused over bytes that an offset cannot count. -/
theorem appendCells_eq_error
    {column : StringColumn}
    {cells : List TextCell}
    {error : BuildError}
    (refused : column.appendCells cells = .error error) :
    ∃ bytes, twoTo 31 ≤ bytes ∧ error = .textOverflow bytes := by
  induction cells generalizing column with
  | nil => cases refused
  | cons cell cells inductionHypothesis =>
      rw [appendCells_cons, bind_eq_error_iff] at refused
      rcases refused with first | ⟨longer, -, others⟩
      · exact append_eq_error first
      · exact inductionHypothesis others

theorem append_ofCells_eq_ok_iff
    {rows : Nat}
    {cells : List TextCell}
    {cell : TextCell}
    {column : StringColumn} :
    (ofCells rows cells).append cell.chars cell.valid = .ok column ↔
      TextFits (cells ++ [cell]) ∧ column = ofCells rows (cells ++ [cell]) := by
  rw [append_ofCells, TextFits]
  split
  · rename_i fits
    simp only [fits, true_and, Except.ok.injEq]
    exact eq_comm
  · rename_i overflow
    simp only [overflow, false_and, reduceCtorEq]

/-- Cells are appended exactly when all bytes can be counted. -/
theorem appendCells_ofCells_eq_ok_iff
    {rows : Nat}
    {cells more : List TextCell}
    {column : StringColumn}
    (fits : TextFits cells) :
    (ofCells rows cells).appendCells more = .ok column ↔
      TextFits (cells ++ more) ∧ column = ofCells rows (cells ++ more) := by
  induction more generalizing cells with
  | nil => simp [fits, eq_comm]
  | cons cell more inductionHypothesis =>
      rw [appendCells_cons, bind_eq_ok_iff]
      constructor
      · rintro ⟨longer, appended, rest⟩
        rcases append_ofCells_eq_ok_iff.1 appended with ⟨longerFits, rfl⟩
        simpa using (inductionHypothesis longerFits).1 rest
      · rintro ⟨wholeFits, columnEqual⟩
        rw [List.append_cons] at wholeFits columnEqual
        have longerFits : TextFits (cells ++ [cell]) := wholeFits.of_append
        exact ⟨_, append_ofCells_eq_ok_iff.2 ⟨longerFits, rfl⟩,
          (inductionHypothesis longerFits).2 ⟨wholeFits, columnEqual⟩⟩

/-! ## Reading back -/

theorem offset_ofCells
    {rows place : Nat}
    {cells : List TextCell}
    (fits : TextFits cells)
    (inside : place ≤ cells.length) :
    (ofCells rows cells).offset place = textBefore cells place := by
  have small : textBefore cells place < twoTo 31 :=
    Nat.lt_of_le_of_lt (textBefore_le cells place) fits
  have entry :
      (ofCells rows cells).offsets.getD place 0 =
        Int32.ofNat (textBefore cells place) := by
    rw [Array.getD_eq_getD_getElem?]
    simp [ofCells, Nat.lt_succ_of_le inside]
  rw [offset, entry, toInt_ofNat_of_lt small, Int.toNat_natCast]

theorem record_ofCells
    {rows index : Nat}
    {cells : List TextCell}
    {cell : TextCell}
    (fits : TextFits cells)
    (found : cells[index]? = some cell) :
    (ofCells rows cells).record index = cell.chars := by
  rcases List.getElem?_eq_some_iff.1 found with ⟨inside, -⟩
  rw [record, offset_ofCells fits (by omega), offset_ofCells fits (by omega)]
  exact extract_textOf found

theorem bit_ofCells
    {rows index : Nat}
    {cells : List TextCell}
    {cell : TextCell}
    (inside : index < rows)
    (found : cells[index]? = some cell) :
    (ofCells rows cells).mask.bit index = cell.valid := by
  show (NullBitmap.ofTest rows _).bit index = _
  rw [NullBitmap.bit_ofTest _ inside, found]
  rfl

theorem copyFrom_ofCells
    {rows index : Nat}
    {cells : List TextCell}
    {cell : TextCell}
    (column : StringColumn)
    (fits : TextFits cells)
    (inside : index < rows)
    (found : cells[index]? = some cell) :
    column.copyFrom (ofCells rows cells) index =
      column.append cell.chars cell.valid := by
  rw [copyFrom_eq, record_ofCells fits found, bit_ofCells inside found]

/-- Repeating a record appends its cell again and again. -/
theorem repeatTimes_ofCells
    {rows index : Nat}
    {cells : List TextCell}
    {cell : TextCell}
    (fits : TextFits cells)
    (inside : index < rows)
    (found : cells[index]? = some cell)
    (times : Nat) :
    (ofCells rows cells).repeatTimes index times =
      (ofCells rows cells).appendCells (List.replicate times cell) := by
  induction times generalizing cells with
  | zero => rfl
  | succ times inductionHypothesis =>
      have once :
          (ofCells rows cells).repeatRecord index =
            (ofCells rows cells).append cell.chars cell.valid := by
        rw [repeatRecord_eq, record_ofCells fits found, bit_ofCells inside found]
      rw [repeatTimes, once, List.replicate_succ, appendCells_cons]
      cases appended : (ofCells rows cells).append cell.chars cell.valid with
      | error error => rfl
      | ok longer =>
          rcases append_ofCells_eq_ok_iff.1 appended with ⟨longerFits, rfl⟩
          exact inductionHypothesis longerFits (getElem?_append_of_some found _)

end StringColumn

/-! ## Runs -/

/-- A run of a column appends its cell as often as the run is long. -/
theorem appendRun_ofCells
    {drawn : DrawnRuns TextCell}
    {run : Run TextCell}
    {cell : TextCell}
    {rows : Nat}
    {cells : List TextCell}
    (poolFits : TextFits drawn.pool.toList)
    (inside : cells.length < rows)
    (positive : 0 < run.length)
    (found : drawn.cell? run.pick = some cell) :
    appendRun (.ofCells drawn.pool.size drawn.pool.toList)
        (.ofCells rows cells) run =
      (StringColumn.ofCells rows cells).appendCells
        (List.replicate run.length cell) := by
  have head :
      appendRun (.ofCells drawn.pool.size drawn.pool.toList)
          (.ofCells rows cells) run =
        (StringColumn.ofCells rows cells).append cell.chars cell.valid >>=
          fun head => head.repeatTimes cells.length (run.length - 1) := by
    rcases run with ⟨place | own, length⟩
    · have inPool : drawn.pool.toList[place]? = some cell := by
        rw [Array.getElem?_toList]
        exact found
      have small : place < drawn.pool.size := by
        rcases List.getElem?_eq_some_iff.1 inPool with ⟨within, -⟩
        simpa using within
      rw [← StringColumn.copyFrom_ofCells _ poolFits small inPool,
        ← StringColumn.count_ofCells rows cells]
      rfl
    · cases found
      rw [← StringColumn.count_ofCells rows cells]
      rfl
  obtain ⟨times, length⟩ : ∃ times, run.length = times + 1 :=
    ⟨run.length - 1, by omega⟩
  rw [head, length, List.replicate_succ, StringColumn.appendCells_cons,
    Nat.add_sub_cancel]
  cases appended : (StringColumn.ofCells rows cells).append cell.chars cell.valid with
  | error error => rfl
  | ok longer =>
      rcases StringColumn.append_ofCells_eq_ok_iff.1 appended with
        ⟨longerFits, rfl⟩
      exact StringColumn.repeatTimes_ofCells longerFits inside (by simp) times

/-- The cells of some of the runs of a column, in row order. -/
def DrawnRuns.cellsOf
    (drawn : DrawnRuns TextCell)
    (runs : List (Run TextCell)) :
    List TextCell :=
  (rowPicks runs).filterMap drawn.cell?

theorem DrawnRuns.cellsOf_cons
    {drawn : DrawnRuns TextCell}
    {run : Run TextCell}
    {cell : TextCell}
    (found : drawn.cell? run.pick = some cell)
    (runs : List (Run TextCell)) :
    drawn.cellsOf (run :: runs) =
      List.replicate run.length cell ++ drawn.cellsOf runs := by
  rw [cellsOf, rowPicks_cons, List.filterMap_append,
    List.filterMap_replicate_of_some found]
  rfl

theorem foldlM_appendRun
    {drawn : DrawnRuns TextCell}
    {runs : List (Run TextCell)}
    {rows : Nat}
    {cells : List TextCell}
    (poolFits : TextFits drawn.pool.toList)
    (fits : TextFits cells)
    (grounded : ∀ run ∈ runs, ∃ cell, drawn.cell? run.pick = some cell)
    (positive : ∀ run ∈ runs, 0 < run.length)
    (inside : cells.length + (drawn.cellsOf runs).length ≤ rows) :
    runs.foldlM (appendRun (.ofCells drawn.pool.size drawn.pool.toList))
        (.ofCells rows cells) =
      (StringColumn.ofCells rows cells).appendCells (drawn.cellsOf runs) := by
  induction runs generalizing cells with
  | nil => rfl
  | cons run runs inductionHypothesis =>
      rcases grounded run (List.mem_cons_self ..) with ⟨cell, found⟩
      have runPositive := positive run (List.mem_cons_self ..)
      rw [DrawnRuns.cellsOf_cons found, List.length_append,
        List.length_replicate] at inside
      rw [List.foldlM_cons,
        appendRun_ofCells poolFits (by omega) runPositive found,
        DrawnRuns.cellsOf_cons found, StringColumn.appendCells_append]
      cases appended :
          (StringColumn.ofCells rows cells).appendCells
            (List.replicate run.length cell) with
      | error error => rfl
      | ok longer =>
          rcases
              (StringColumn.appendCells_ofCells_eq_ok_iff fits).1 appended with
            ⟨longerFits, rfl⟩
          refine inductionHypothesis longerFits ?_ ?_ ?_
          · exact fun other member =>
              grounded other (List.mem_cons_of_mem run member)
          · exact fun other member =>
              positive other (List.mem_cons_of_mem run member)
          · rw [List.length_append, List.length_replicate]
            omega

/-- The pool is laid out by its cells, and then the column by those of its rows. -/
theorem layOutStrings_eq
    {rows : Nat}
    {drawn : DrawnRuns TextCell}
    (fills : drawn.Fills rows) :
    layOutStrings rows drawn =
      (StringColumn.start drawn.pool.size).appendCells drawn.pool.toList >>=
        fun _ => (StringColumn.start rows).appendCells drawn.cells.toList := by
  have pool :
      drawn.pool.foldlM
          (fun column cell => column.append cell.chars cell.valid)
          (StringColumn.start drawn.pool.size) =
        (StringColumn.start drawn.pool.size).appendCells drawn.pool.toList :=
    Array.foldlM_toList.symm
  rw [layOutStrings, pool, StringColumn.start_eq_ofCells,
    StringColumn.start_eq_ofCells]
  cases laidOut :
      (StringColumn.ofCells drawn.pool.size []).appendCells
        drawn.pool.toList with
  | error error => rfl
  | ok poolColumn =>
      rcases
          (StringColumn.appendCells_ofCells_eq_ok_iff TextFits.nil).1 laidOut with
        ⟨poolFits, rfl⟩
      have size := fills.size_cells
      rw [← Array.length_toList, DrawnRuns.toList_cells] at size
      rw [DrawnRuns.toList_cells]
      show drawn.runs.foldlM _ _ = _
      rw [← Array.foldlM_toList]
      refine foldlM_appendRun poolFits TextFits.nil ?_ ?_ ?_
      · exact fun run member => fills.grounded run (Array.mem_toList_iff.1 member)
      · exact fun run member => fills.positive run (Array.mem_toList_iff.1 member)
      · rw [List.length_nil, Nat.zero_add]
        exact Nat.le_of_eq size

theorem layOutStrings_eq_error
    {rows : Nat}
    {drawn : DrawnRuns TextCell}
    {error : BuildError}
    (fills : drawn.Fills rows)
    (refused : layOutStrings rows drawn = .error error) :
    ∃ bytes, twoTo 31 ≤ bytes ∧ error = .textOverflow bytes := by
  rw [layOutStrings_eq fills, bind_eq_error_iff] at refused
  rcases refused with pool | ⟨_, -, cells⟩
  · exact StringColumn.appendCells_eq_error pool
  · exact StringColumn.appendCells_eq_error cells

/-- A string column is laid out exactly when its bytes and those of its pool can be counted. -/
theorem layOutStrings_eq_ok_iff
    {rows : Nat}
    {drawn : DrawnRuns TextCell}
    {column : StringColumn}
    (fills : drawn.Fills rows) :
    layOutStrings rows drawn = .ok column ↔
      TextFits drawn.pool.toList ∧ TextFits drawn.cells.toList ∧
        column = .ofCells rows drawn.cells.toList := by
  rw [layOutStrings_eq fills, bind_eq_ok_iff, StringColumn.start_eq_ofCells,
    StringColumn.start_eq_ofCells]
  simp only [StringColumn.appendCells_ofCells_eq_ok_iff TextFits.nil, List.nil_append]
  constructor
  · rintro ⟨_, ⟨poolFits, -⟩, fits, columnEqual⟩
    exact ⟨poolFits, fits, columnEqual⟩
  · rintro ⟨poolFits, fits, columnEqual⟩
    exact ⟨_, ⟨poolFits, rfl⟩, fits, columnEqual⟩

end SyntheticTable
