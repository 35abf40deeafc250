import SyntheticTable.Proofs.Failure
import SyntheticTable.Proofs.StringLayout
import SyntheticTable.Store

/-!
# The rows a column holds

A column holds rows if every one of them can be read and there are no others.
Columns are laid out in two ways, fixed-width values in a buffer of their own
and texts behind each other with offsets, and either way the column holds the
rows of its cells and passes the checks of a store.
-/

namespace SyntheticTable

/-- What a row of a column says. -/
structure ColumnRow where
  record : List UInt8
  valid : Bool
deriving DecidableEq, Repr

/-- A row of a column says something: its validity and its record can be read. -/
structure Column.HasRow
    (column : Column)
    (row : Nat)
    (content : ColumnRow) : Prop where
  isValid? : column.isValid? row = .ok content.valid
  record? : column.record? row = .ok content.record

/-- A column holds rows: each of them can be read, and there are no others. -/
structure Column.Holds (column : Column) (rows : List ColumnRow) : Prop where
  rowCount : column.rowCount = rows.length
  isValid? :
    ∀ {row : Nat} {content : ColumnRow},
      rows[row]? = some content → column.isValid? row = .ok content.valid
  record? :
    ∀ {row : Nat} {content : ColumnRow},
      rows[row]? = some content → column.record? row = .ok content.record

namespace Column

theorem isValid?_of_lt
    {column : Column}
    {row : Nat}
    (inside : row < column.rowCount) :
    column.isValid? row = .ok (column.mask.bit row) := by
  have read : column.mask.isValid? row = .ok (column.mask.bit row) := if_pos inside
  rw [isValid?, read]
  rfl

/-- The validity of a row is told where there is such a row, and it is its bit. -/
theorem isValid?_eq_ok_iff
    {column : Column}
    {row : Nat}
    {valid : Bool} :
    column.isValid? row = .ok valid ↔
      row < column.rowCount ∧ column.mask.bit row = valid := by
  by_cases inside : row < column.rowCount
  · rw [isValid?_of_lt inside, Except.ok.injEq, and_iff_right inside]
  · have refused : column.mask.isValid? row = .error ⟨row, column.mask.rows⟩ :=
      if_neg inside
    rw [isValid?, refused]
    constructor
    · rintro ⟨⟩
    · exact fun isRow => (inside isRow.1).elim

theorem Holds.bit
    {column : Column}
    {rows : List ColumnRow}
    {row : Nat}
    {content : ColumnRow}
    (holds : column.Holds rows)
    (found : rows[row]? = some content) :
    column.mask.bit row = content.valid := by
  rcases List.getElem?_eq_some_iff.1 found with ⟨inside, -⟩
  rw [← holds.rowCount] at inside
  have read := holds.isValid? found
  rw [isValid?_of_lt inside] at read
  exact Except.ok.inj read

theorem Holds.of_bit_record
    {column : Column}
    {rows : List ColumnRow}
    (rowCount : column.rowCount = rows.length)
    (bit :
      ∀ {row : Nat} {content : ColumnRow},
        rows[row]? = some content → column.mask.bit row = content.valid)
    (record :
      ∀ {row : Nat} {content : ColumnRow},
        rows[row]? = some content →
          column.data.record? row = some content.record) :
    column.Holds rows where
  rowCount := rowCount
  isValid? := by
    intro row content found
    rcases List.getElem?_eq_some_iff.1 found with ⟨inside, -⟩
    rw [isValid?_of_lt (rowCount ▸ inside), bit found]
  record? := by
    intro row content found
    have read := record found
    unfold Column.record?
    rw [read]

theorem Holds.exists_row
    {column : Column}
    {rows : List ColumnRow}
    {row : Nat}
    (holds : column.Holds rows)
    (inside : row < column.rowCount) :
    ∃ content,
      rows[row]? = some content ∧
        column.isValid? row = .ok content.valid ∧
          column.record? row = .ok content.record := by
  rw [holds.rowCount] at inside
  have found := List.getElem?_eq_getElem inside
  exact ⟨_, found, holds.isValid? found, holds.record? found⟩

end Column

/-! ## Fixed-width columns -/

/-- The row of a fixed-width cell: a null row holds the default value. -/
def FixedType.cellRow (type : FixedType) (cell : Option type.Value) : ColumnRow where
  record := type.record (cell.getD type.defaultValue)
  valid := cell.isSome

theorem layOutValues_holds
    {type : FixedType}
    {rows : Nat}
    {drawn : DrawnRuns (Option type.Value)}
    (fills : drawn.Fills rows) :
    (layOutValues type rows drawn).Holds
      (drawn.cells.toList.map type.cellRow) := by
  have size : drawn.cells.size = rows := fills.size_cells
  refine .of_bit_record ?_ ?_ ?_
  · show (NullBitmap.ofTest rows _).rows = _
    rw [NullBitmap.rows_ofTest, List.length_map, Array.length_toList, size]
  · intro row content found
    rw [List.getElem?_map, Option.map_eq_some_iff] at found
    rcases found with ⟨cell, cellFound, rfl⟩
    rcases List.getElem?_eq_some_iff.1 cellFound with ⟨inside, -⟩
    rw [Array.length_toList, size] at inside
    rw [Array.getElem?_toList] at cellFound
    show (NullBitmap.ofTest rows _).bit row = _
    rw [NullBitmap.bit_ofTest _ inside, Array.getD_eq_getD_getElem?, cellFound]
    rfl
  · intro row content found
    rw [List.getElem?_map, Option.map_eq_some_iff] at found
    rcases found with ⟨cell, cellFound, rfl⟩
    rw [Array.getElem?_toList] at cellFound
    show ((drawn.cells.map (·.getD type.defaultValue))[row]?).map _ = _
    rw [Array.getElem?_map, cellFound]
    rfl

theorem layOutValues_validate
    {type : FixedType}
    {rows : Nat}
    {drawn : DrawnRuns (Option type.Value)}
    (fills : drawn.Fills rows) :
    (layOutValues type rows drawn).validate = .ok () := by
  have count : (layOutValues type rows drawn).data.count = rows := by
    show (drawn.cells.map _).size = rows
    rw [Array.size_map, fills.size_cells]
  have rowCount : (layOutValues type rows drawn).rowCount = rows :=
    NullBitmap.rows_ofTest rows _
  exact Column.validate_of_counted (count.trans rowCount.symm)

/-! ## String columns -/

/-- The record of a row lies between the offsets at the row and behind it. -/
theorem ColumnData.record?_string
    {chars : Array UInt8}
    {offsets : Array Int32}
    {row : Nat}
    {start stop : Int32}
    (startFound : offsets[row]? = some start)
    (stopFound : offsets[row + 1]? = some stop) :
    (ColumnData.string chars offsets).record? row = slice? chars start stop := by
  simp only [record?, startFound, stopFound]

/-- The row of a text cell: a null row keeps its text. -/
def TextCell.row (cell : TextCell) : ColumnRow where
  record := cell.chars.toList
  valid := cell.valid

namespace StringColumn

theorem offsets_ofCells_getElem?
    {rows place : Nat}
    {cells : List TextCell}
    (inside : place ≤ cells.length) :
    (ofCells rows cells).offsets[place]? =
      some (.ofNat (textBefore cells place)) := by
  simp [ofCells, Nat.lt_succ_of_le inside]

/-- An entry of the offset table counts the bytes before its place. -/
theorem toInt_of_offsets_ofCells
    {rows place : Nat}
    {cells : List TextCell}
    {offset : Int32}
    (fits : TextFits cells)
    (found : (ofCells rows cells).offsets[place]? = some offset) :
    place ≤ cells.length ∧ offset.toInt = textBefore cells place := by
  rcases Array.getElem?_eq_some_iff.1 found with ⟨within, -⟩
  have inside : place ≤ cells.length := by
    have size : (ofCells rows cells).offsets.size = cells.length + 1 := by
      simp [ofCells]
    omega
  rw [offsets_ofCells_getElem? inside] at found
  cases found
  refine ⟨inside, toInt_ofNat_of_lt ?_⟩
  exact Nat.lt_of_le_of_lt (textBefore_le cells place) fits

theorem offsets_ofCells_le
    {rows place : Nat}
    {cells : List TextCell}
    {before behind : Int32}
    (fits : TextFits cells)
    (foundBefore : (ofCells rows cells).offsets[place]? = some before)
    (foundBehind : (ofCells rows cells).offsets[place + 1]? = some behind) :
    before.toInt ≤ behind.toInt := by
  have counted := (toInt_of_offsets_ofCells fits foundBefore).2
  rcases toInt_of_offsets_ofCells fits foundBehind with ⟨inside, countedBehind⟩
  have longer := textBefore_succ (List.getElem?_eq_getElem inside)
  rw [counted, countedBehind, longer]
  exact Int.ofNat_le.2 (Nat.le_add_right _ _)

/-- A row that has a cell says what the cell says. -/
theorem ofCells_hasRow
    {rows row : Nat}
    {cells : List TextCell}
    {cell : TextCell}
    (fits : TextFits cells)
    (inside : row < rows)
    (found : cells[row]? = some cell) :
    (ofCells rows cells).toColumn.HasRow row cell.row := by
  have rowCount : (ofCells rows cells).toColumn.rowCount = rows :=
    NullBitmap.rows_ofTest rows _
  refine ⟨?_, ?_⟩
  · exact Column.isValid?_eq_ok_iff.2
      ⟨rowCount.symm ▸ inside, bit_ofCells inside found⟩
  rcases List.getElem?_eq_some_iff.1 found with ⟨isCell, -⟩
  have stopSmall := textBefore_le cells (row + 1)
  have startSmall := textBefore_succ found
  have start :
      (Int32.ofNat (textBefore cells row)).toInt = textBefore cells row :=
    toInt_ofNat_of_lt (Nat.lt_of_le_of_lt (textBefore_le cells row) fits)
  have stop :
      (Int32.ofNat (textBefore cells (row + 1))).toInt =
        textBefore cells (row + 1) :=
    toInt_ofNat_of_lt (Nat.lt_of_le_of_lt stopSmall fits)
  have sliced :
      (ofCells rows cells).toColumn.data.record? row =
        ColumnData.slice? (textOf cells).toArray
          (.ofNat (textBefore cells row))
          (.ofNat (textBefore cells (row + 1))) :=
    ColumnData.record?_string
      (offsets_ofCells_getElem? (Nat.le_of_lt isCell))
      (offsets_ofCells_getElem? isCell)
  have read : (ofCells rows cells).toColumn.data.record? row = some cell.chars.toList := by
    rw [sliced, ColumnData.slice?, start, stop, Int.toNat_natCast, Int.toNat_natCast,
      extract_textOf found, if_pos]
    rw [List.size_toArray]
    omega
  unfold Column.record?
  rw [read]
  rfl

theorem ofCells_holds
    {rows : Nat}
    {cells : List TextCell}
    (fits : TextFits cells)
    (complete : cells.length = rows) :
    (ofCells rows cells).toColumn.Holds (cells.map TextCell.row) := by
  have hasRow :
      ∀ {row : Nat} {content : ColumnRow},
        (cells.map TextCell.row)[row]? = some content →
          (ofCells rows cells).toColumn.HasRow row content := by
    intro row content found
    rw [List.getElem?_map, Option.map_eq_some_iff] at found
    rcases found with ⟨cell, cellFound, rfl⟩
    rcases List.getElem?_eq_some_iff.1 cellFound with ⟨inside, -⟩
    exact ofCells_hasRow fits (complete ▸ inside) cellFound
  refine ⟨?_, fun found => (hasRow found).isValid?, fun found => (hasRow found).record?⟩
  show (NullBitmap.ofTest rows _).rows = _
  rw [NullBitmap.rows_ofTest, List.length_map, complete]

end StringColumn

/-- Offsets are in order if each is at most the next. -/
theorem isNonDecreasing_of_steps
    {offsets : List Int32}
    (steps :
      ∀ (place : Nat) {first second : Int32},
        offsets[place]? = some first →
          offsets[place + 1]? = some second → first.toInt ≤ second.toInt) :
    isNonDecreasing offsets = true := by
  induction offsets with
  | nil => rfl
  | cons first rest inductionHypothesis =>
      have others :=
        inductionHypothesis fun place _ _ foundFirst foundSecond =>
          steps (place + 1) foundFirst foundSecond
      cases rest with
      | nil => rfl
      | cons second rest =>
          have step : first.toInt ≤ second.toInt :=
            steps 0 rfl rfl
          simp only [isNonDecreasing, step, others, decide_true, Bool.and_self]

/-- The offsets of cells cut their bytes into records. -/
theorem StringColumn.checkOffsets_ofCells
    {rows : Nat}
    {cells : List TextCell}
    (fits : TextFits cells) :
    checkOffsets (ofCells rows cells).chars.size
        (ofCells rows cells).offsets.toList =
      .ok () := by
  have first : (ofCells rows cells).offsets.toList.head? = some 0 := by
    rw [List.head?_eq_getElem?, Array.getElem?_toList,
      offsets_ofCells_getElem? (Nat.zero_le _), textBefore_zero]
    rfl
  have ordered : isNonDecreasing (ofCells rows cells).offsets.toList = true := by
    refine isNonDecreasing_of_steps ?_
    intro place before behind foundBefore foundBehind
    rw [Array.getElem?_toList] at foundBefore foundBehind
    exact offsets_ofCells_le fits foundBefore foundBehind
  have last :
      ((ofCells rows cells).offsets.toList.getLast?.getD 0).toInt.toNat =
        (ofCells rows cells).chars.size := by
    have length : (ofCells rows cells).offsets.toList.length = cells.length + 1 := by
      simp [ofCells]
    rw [List.getLast?_eq_getElem?, length, Nat.add_sub_cancel,
      Array.getElem?_toList, offsets_ofCells_getElem? (Nat.le_refl _),
      textBefore_length, Option.getD_some, toInt_ofNat_of_lt fits]
    rfl
  rw [checkOffsets, if_neg (not_not_intro first), ordered, last]
  simp

theorem StringColumn.ofCells_validate
    {rows : Nat}
    {cells : List TextCell}
    (fits : TextFits cells)
    (complete : cells.length = rows) :
    (ofCells rows cells).toColumn.validate = .ok () := by
  have count : (ofCells rows cells).toColumn.data.count = rows := by
    rw [← complete]
    exact count_ofCells rows cells
  have rowCount : (ofCells rows cells).toColumn.rowCount = rows :=
    NullBitmap.rows_ofTest rows _
  rw [Column.validate_of_counted (count.trans rowCount.symm)]
  show (checkOffsets _ _).mapError _ = _
  rw [checkOffsets_ofCells fits]
  rfl

end SyntheticTable
