import SyntheticTable.Proofs.AppendedRecords
import SyntheticTable.Proofs.RowFilling

/-!
# Filling string columns

A string column is filled by appending: where a record goes is not given but
told by the records that are there.  A record is read from a pool or from the
column itself, its offsets and its bytes being checked, and its row has to be
one of the mask if it is to be cleared.

A column that is filled is well-formed and has as many records as rows were
filled.  Then every check passes, and what is appended is refused only over
bytes that an offset cannot count.
-/

namespace SyntheticTable

namespace StringColumn

/-- The mask in which the next record has its validity. -/
def settle? (column : StringColumn) (valid : Bool) : Except FillFault NullBitmap :=
  if valid then .ok column.mask
  else (column.mask.clear? column.count).mapError fun error => .access (.row error)

/-- Appends a record whose row is one of the mask. -/
def append?
    (column : StringColumn)
    (record : Array UInt8)
    (valid : Bool) :
    Except FillFault StringColumn := do
  let mask ← column.settle? valid
  let longer ← (column.append record valid).mapError .refused
  return { longer with mask }

/-- Appends a record that can be read in a column. -/
def copy?
    (column source : StringColumn)
    (index : Nat) :
    Except FillFault StringColumn := do
  let valid ← (source.toColumn.isValid? index).mapError .access
  let record ← (source.toColumn.record? index).mapError .access
  column.append? record.toArray valid

/-- Appends copies of a record that can be read in the column itself. -/
def stretch?
    (column : StringColumn)
    (index : Nat) :
    Nat → Except FillFault StringColumn
  | 0 => .ok column
  | times + 1 => do
      let longer ← column.copy? column index
      longer.stretch? index times

end StringColumn

/-- How the rows of a string column are filled. -/
def textFiller : Filler TextCell StringColumn where
  start := StringColumn.start
  put column _ cell := column.append? cell.chars cell.valid
  copy column _ pool place := column.copy? pool place
  stretch := StringColumn.stretch?

/-- A string column that can be counted by its offsets holds its cells. -/
structure HoldsTexts
    (rows : Nat)
    (cells : List TextCell)
    (column : StringColumn) : Prop where
  fits : TextFits cells
  laidOut : column = .ofCells rows cells

/-- There are more bytes of text than an offset can count. -/
def IsTooMuchText (fault : FillFault) : Prop :=
  ∃ bytes, twoTo 31 ≤ bytes ∧ fault = .refused (.textOverflow bytes)

/-- A string column keeps step with the rows that are filled. -/
structure KeepsStep
    (rows : Nat)
    (state : Filling StringColumn) : Prop where
  wellFormed : state.buffers.WellFormed
  count : state.buffers.count = state.row
  maskRows : state.buffers.mask.rows = rows

theorem HoldsTexts.keepsStep
    {rows : Nat}
    {state : Filling StringColumn}
    (holds : Filler.HoldsRows HoldsTexts rows state) :
    KeepsStep rows state := by
  rcases state with ⟨row, column⟩
  rcases holds with ⟨-, cells, rfl, fits, rfl⟩
  exact ⟨StringColumn.ofCells_wellFormed fits, StringColumn.count_ofCells rows cells,
    NullBitmap.rows_ofTest rows _⟩

namespace HoldsTexts

variable
    {rows : Nat}
    {cells : List TextCell}
    {column : StringColumn}

/--
Where a row is left, the row of the next record is one of the mask, so it makes no
difference whether the mask is settled first or last.
-/
theorem append?_eq
    (holds : HoldsTexts rows cells column)
    (goesOn : cells.length < rows)
    (record : Array UInt8)
    (valid : Bool) :
    column.append? record valid = (column.append record valid).mapError .refused := by
  rcases holds with ⟨-, rfl⟩
  have isRow :
      (StringColumn.ofCells rows cells).count <
        (StringColumn.ofCells rows cells).mask.rows := by
    rw [StringColumn.count_ofCells]
    exact (NullBitmap.rows_ofTest rows _).symm ▸ goesOn
  generalize StringColumn.ofCells rows cells = column at isRow
  have settled :
      column.settle? valid =
        .ok (if valid then column.mask else column.mask.clear column.count) := by
    cases valid with
    | true => rfl
    | false =>
        have cleared : column.mask.clear? column.count = .ok _ := if_pos isRow
        rw [StringColumn.settle?, if_neg Bool.false_ne_true, cleared]
        rfl
  rw [StringColumn.append?, settled, bind_ok, StringColumn.append_eq]
  split <;> rfl

theorem append?_cases
    (holds : HoldsTexts rows cells column)
    (goesOn : cells.length < rows)
    (cell : TextCell) :
    (∃ longer,
      column.append? cell.chars cell.valid = .ok longer ∧
        HoldsTexts rows (cells ++ [cell]) longer) ∨
    ∃ fault,
      column.append? cell.chars cell.valid = .error fault ∧ IsTooMuchText fault := by
  rw [holds.append?_eq goesOn]
  rcases holds with ⟨-, rfl⟩
  cases appended :
      (StringColumn.ofCells rows cells).append cell.chars cell.valid with
  | ok longer =>
      rcases StringColumn.append_ofCells_eq_ok_iff.1 appended with ⟨fits, laidOut⟩
      exact .inl ⟨longer, rfl, fits, laidOut⟩
  | error error =>
      rcases StringColumn.append_eq_error appended with ⟨bytes, tooMany, rfl⟩
      exact .inr ⟨_, rfl, bytes, tooMany, rfl⟩

theorem copy?_eq
    {size index : Nat}
    {sourceCells : List TextCell}
    {source : StringColumn}
    {cell : TextCell}
    (sourceHolds : HoldsTexts size sourceCells source)
    (isRow : index < size)
    (found : sourceCells[index]? = some cell)
    (column : StringColumn) :
    column.copy? source index = column.append? cell.chars cell.valid := by
  rcases sourceHolds with ⟨fits, rfl⟩
  have hasRow := StringColumn.ofCells_hasRow fits isRow found
  rw [StringColumn.copy?, hasRow.isValid?, hasRow.record?]
  rfl

/-- A record that is repeated is appended like its cell, again and again. -/
theorem stretch?_eq
    {index : Nat}
    {cell : TextCell}
    (times row : Nat)
    (holds : HoldsTexts rows cells column)
    (inside : cells.length + times ≤ rows)
    (found : cells[index]? = some cell) :
    column.stretch? index times =
      textFiller.putAll column row (List.replicate times cell) := by
  induction times generalizing cells column row with
  | zero => rfl
  | succ times inductionHypothesis =>
      rcases List.getElem?_eq_some_iff.1 found with ⟨earlier, -⟩
      have kept := getElem?_append_of_some found [cell]
      rw [StringColumn.stretch?, holds.copy?_eq (by omega) found,
        List.replicate_succ, Filler.putAll]
      show _ = column.append? cell.chars cell.valid >>= _
      rcases holds.append?_cases (by omega) cell with
        ⟨longer, put, longerHolds⟩ | ⟨fault, refused, -⟩
      · rw [put, bind_ok, bind_ok]
        refine inductionHypothesis (row + 1) longerHolds ?_ kept
        rw [List.length_append, List.length_singleton]
        omega
      · rw [refused]
        rfl

theorem putAll_eq
    (more : List TextCell)
    (row : Nat)
    (holds : HoldsTexts rows cells column)
    (inside : cells.length + more.length ≤ rows) :
    textFiller.putAll column row more =
      (column.appendCells more).mapError .refused := by
  induction more generalizing cells column row with
  | nil => rfl
  | cons cell more inductionHypothesis =>
      rw [List.length_cons] at inside
      have put := holds.append?_eq (by omega) cell.chars cell.valid
      rw [Filler.putAll, StringColumn.appendCells_cons]
      show column.append? cell.chars cell.valid >>= _ = _
      cases appended : column.append cell.chars cell.valid with
      | ok longer =>
          rw [appended] at put
          have longerHolds : HoldsTexts rows (cells ++ [cell]) longer := by
            rcases holds with ⟨-, rfl⟩
            rcases StringColumn.append_ofCells_eq_ok_iff.1 appended with
              ⟨fits, laidOut⟩
            exact ⟨fits, laidOut⟩
          rw [put]
          refine inductionHypothesis (row + 1) longerHolds ?_
          rw [List.length_append, List.length_singleton]
          omega
      | error error =>
          rw [appended] at put
          rw [put]
          rfl

end HoldsTexts

/-- Texts are refused only over bytes that an offset cannot count. -/
theorem textFiller_keeps : textFiller.Keeps HoldsTexts IsTooMuchText where
  start := fun rows => ⟨TextFits.nil, StringColumn.start_eq_ofCells rows⟩
  put := fun cell holds goesOn => holds.append?_cases goesOn cell
  copy := fun _ poolHolds inside found => poolHolds.copy?_eq inside found _
  stretch := by
    intro rows cells column cell times holds inside
    have count : (cells ++ [cell]).length = cells.length + 1 := List.length_append
    exact holds.stretch?_eq times _ (by rw [count]; exact inside) (by simp)

/-- Cells that were drawn in advance are put as they are laid out. -/
theorem putDrawn_texts
    {rows : Nat}
    {drawn : DrawnRuns TextCell}
    (fills : drawn.Fills rows) :
    textFiller.putDrawn rows drawn = (layOutStrings rows drawn).mapError .refused := by
  have put :
      ∀ {rows : Nat} (cells : List TextCell),
        cells.length = rows →
          textFiller.putAll (textFiller.start rows) 0 cells =
            ((StringColumn.start rows).appendCells cells).mapError .refused := by
    intro rows cells complete
    refine (textFiller_keeps.start rows).putAll_eq cells 0 ?_
    rw [List.length_nil, Nat.zero_add]
    exact Nat.le_of_eq complete
  rw [layOutStrings_eq fills, Filler.putDrawn, put _ Array.length_toList,
    put _ (Array.length_toList.trans fills.size_cells)]
  cases (StringColumn.start drawn.pool.size).appendCells drawn.pool.toList <;> rfl

end SyntheticTable
