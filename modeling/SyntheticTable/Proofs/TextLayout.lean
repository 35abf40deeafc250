import SyntheticTable.Build.Column
import SyntheticTable.Proofs.BitmapRows

/-!
# Text cells in a column

A string column holds cells: its bytes are those of the cells one after the
other, and the offset at a place counts the bytes of the cells before it.
Appending a cell to such a column gives the column of one more cell, as long
as the bytes can be counted by an offset, and a record that is read back is
the cell that was appended.
-/

namespace SyntheticTable

/-- A cell keeps its place when others are put behind it. -/
theorem getElem?_append_of_some
    {α : Type}
    {cells : List α}
    {place : Nat}
    {cell : α}
    (found : cells[place]? = some cell)
    (others : List α) :
    (cells ++ others)[place]? = some cell := by
  rcases List.getElem?_eq_some_iff.1 found with ⟨inside, -⟩
  rw [List.getElem?_append_left inside, found]

/-- The bytes of cells, one cell after the other. -/
def textOf (cells : List TextCell) : List UInt8 :=
  cells.flatMap fun cell => cell.chars.toList

@[simp]
theorem textOf_append (left right : List TextCell) :
    textOf (left ++ right) = textOf left ++ textOf right :=
  List.flatMap_append

@[simp]
theorem textOf_singleton (cell : TextCell) :
    textOf [cell] = cell.chars.toList := by
  simp [textOf]

/-- The bytes of cells can be counted by an offset. -/
def TextFits (cells : List TextCell) : Prop :=
  (textOf cells).length < twoTo 31

theorem TextFits.nil : TextFits [] := by
  show 0 < twoTo 31
  decide

theorem TextFits.of_append
    {left right : List TextCell}
    (fits : TextFits (left ++ right)) :
    TextFits left := by
  unfold TextFits at fits ⊢
  rw [textOf_append, List.length_append] at fits
  omega

theorem TextFits.take
    {cells : List TextCell}
    (fits : TextFits cells)
    (count : Nat) :
    TextFits (cells.take count) := by
  rw [← List.take_append_drop count cells] at fits
  exact fits.of_append

/-- How many bytes stand before the cell at a place. -/
def textBefore (cells : List TextCell) (place : Nat) : Nat :=
  (textOf (cells.take place)).length

@[simp]
theorem textBefore_zero (cells : List TextCell) : textBefore cells 0 = 0 := by
  simp [textBefore, textOf]

@[simp]
theorem textBefore_length (cells : List TextCell) :
    textBefore cells cells.length = (textOf cells).length := by
  simp [textBefore]

theorem textBefore_append
    {cells : List TextCell}
    {place : Nat}
    (inside : place ≤ cells.length)
    (more : List TextCell) :
    textBefore (cells ++ more) place = textBefore cells place := by
  rw [textBefore, List.take_append_of_le_length inside]
  rfl

theorem textBefore_succ
    {cells : List TextCell}
    {place : Nat}
    {cell : TextCell}
    (found : cells[place]? = some cell) :
    textBefore cells (place + 1) = textBefore cells place + cell.chars.size := by
  rw [textBefore, List.take_add_one, found]
  simp [textBefore]

theorem textBefore_le
    (cells : List TextCell)
    (place : Nat) :
    textBefore cells place ≤ (textOf cells).length := by
  have whole := congrArg (List.length ∘ textOf) (List.take_append_drop place cells)
  simp only [Function.comp_apply, textOf_append, List.length_append] at whole
  unfold textBefore
  omega

/-- Between two places stand the bytes of the cell between them. -/
theorem extract_textOf
    {cells : List TextCell}
    {place : Nat}
    {cell : TextCell}
    (found : cells[place]? = some cell) :
    (textOf cells).toArray.extract (textBefore cells place)
        (textBefore cells (place + 1)) =
      cell.chars := by
  rcases List.getElem?_eq_some_iff.1 found with ⟨inside, cellEqual⟩
  have parts :
      textOf cells =
        textOf (cells.take place) ++
          (cell.chars.toList ++ textOf (cells.drop (place + 1))) := by
    have split := List.take_append_drop place cells
    rw [List.drop_eq_getElem_cons inside, cellEqual] at split
    rw [← textOf_singleton, ← textOf_append, ← textOf_append,
      List.singleton_append, split]
  rw [textBefore_succ found, parts]
  apply Array.toList_inj.1
  simp [textBefore, List.extract]

/-- The number of bytes that an offset counts. -/
theorem toInt_ofNat_of_lt {bytes : Nat} (small : bytes < twoTo 31) :
    (Int32.ofNat bytes).toInt = bytes := by
  apply Int32.toInt_ofNat_of_lt
  exact small

namespace StringColumn

/-- The column for a number of rows that holds cells. -/
def ofCells (rows : Nat) (cells : List TextCell) : StringColumn where
  chars := (textOf cells).toArray
  offsets :=
    ((List.range (cells.length + 1)).map fun place =>
      Int32.ofNat (textBefore cells place)).toArray
  mask := .ofTest rows fun row => (cells[row]?.map TextCell.valid).getD true

theorem start_eq_ofCells (rows : Nat) : start rows = ofCells rows [] := by
  simp [start, ofCells, NullBitmap.allValid_eq_ofTest, textOf]

@[simp]
theorem count_ofCells (rows : Nat) (cells : List TextCell) :
    (ofCells rows cells).count = cells.length := by
  simp [count, ofCells]

/-- The buffers and the mask of a column to which a record was appended. -/
theorem append_eq
    (column : StringColumn)
    (record : Array UInt8)
    (valid : Bool) :
    column.append record valid =
      if (column.chars ++ record).size < twoTo 31 then
        .ok
          { chars := column.chars ++ record
            offsets := column.offsets.push (.ofNat (column.chars ++ record).size)
            mask := if valid then column.mask else column.mask.clear column.count }
      else
        .error (.textOverflow (column.chars ++ record).size) := by
  show
    (if (column.chars ++ record).size < twoTo 31 then .ok _ else .error _ :
        Except BuildError StringColumn).map _ =
      _
  by_cases counted : (column.chars ++ record).size < twoTo 31
  · rw [if_pos counted, if_pos counted]
    cases valid <;> rfl
  · rw [if_neg counted, if_neg counted]
    rfl

/-- A copy is appended, although its validity is settled first. -/
theorem copyFrom_eq
    (column source : StringColumn)
    (index : Nat) :
    column.copyFrom source index =
      column.append (source.record index) (source.mask.bit index) := by
  rw [append_eq, copyFrom]
  cases source.mask.bit index <;> rfl

/-- So is a record that is repeated. -/
theorem repeatRecord_eq
    (column : StringColumn)
    (index : Nat) :
    column.repeatRecord index =
      column.append (column.record index) (column.mask.bit index) := by
  rw [append_eq, repeatRecord]
  cases column.mask.bit index <;> rfl

/-- One more cell settles the validity of the first row that had none. -/
theorem mask_append_ofCells
    (rows : Nat)
    (cells : List TextCell)
    (cell : TextCell) :
    (if cell.valid then (ofCells rows cells).mask
      else (ofCells rows cells).mask.clear cells.length) =
      (ofCells rows (cells ++ [cell])).mask :=
  NullBitmap.settle_ofTest TextCell.valid cells cell rows

/-- One more cell adds the offset behind it. -/
theorem offsets_append_ofCells
    (rows : Nat)
    (cells : List TextCell)
    (cell : TextCell) :
    (ofCells rows cells).offsets.push
        (.ofNat (textOf (cells ++ [cell])).length) =
      (ofCells rows (cells ++ [cell])).offsets := by
  have last := textBefore_length (cells ++ [cell])
  rw [List.length_append, List.length_singleton] at last
  have earlier :
      (List.range (cells.length + 1)).map
          (fun place => Int32.ofNat (textBefore (cells ++ [cell]) place)) =
        (List.range (cells.length + 1)).map
          fun place => Int32.ofNat (textBefore cells place) := by
    refine List.map_congr_left ?_
    intro place member
    have inside : place ≤ cells.length := by
      have := List.mem_range.1 member
      omega
    rw [textBefore_append inside]
  apply Array.toList_inj.1
  show _ = (List.range ((cells ++ [cell]).length + 1)).map _
  rw [List.length_append, List.length_singleton, List.range_succ,
    List.map_append, earlier, List.map_singleton, last]
  exact Array.toList_push

/-- Appending a cell gives the column of one more cell, unless the bytes are too many. -/
theorem append_ofCells
    (rows : Nat)
    (cells : List TextCell)
    (cell : TextCell) :
    (ofCells rows cells).append cell.chars cell.valid =
      if (textOf (cells ++ [cell])).length < twoTo 31 then
        .ok (ofCells rows (cells ++ [cell]))
      else
        .error (.textOverflow (textOf (cells ++ [cell])).length) := by
  have chars :
      (ofCells rows cells).chars ++ cell.chars =
        (ofCells rows (cells ++ [cell])).chars := by
    apply Array.toList_inj.1
    simp [ofCells]
  have bytes :
      (ofCells rows (cells ++ [cell])).chars.size =
        (textOf (cells ++ [cell])).length := by
    simp [ofCells]
  rw [append_eq, chars, bytes, offsets_append_ofCells, count_ofCells,
    mask_append_ofCells]

end StringColumn

end SyntheticTable
