import SyntheticTable.Proofs.FillPasses
import SyntheticTable.Proofs.ValidatedColumn

/-!
# Appended records

A string column grows at its end, and three buffers have to grow in step: the
bytes, the offsets and the mask.  While it grows, its records lie behind one
another and the rows that are still to come are valid.  Such a column is laid
out from cells, one for each of its records.

A record is appended from a cell, copied from a column, or repeated from the
column itself.  Each of them puts one record behind the others, with the bytes
and the validity of what was appended, and no other row is touched.
-/

namespace SyntheticTable

theorem Column.HasRow.unique
    {column : Column}
    {row : Nat}
    {content other : ColumnRow}
    (has : column.HasRow row content)
    (hasOther : column.HasRow row other) :
    content = other := by
  rcases content with ⟨record, valid⟩
  rcases other with ⟨otherRecord, otherValid⟩
  cases has.isValid?.symm.trans hasOther.isValid?
  cases has.record?.symm.trans hasOther.record?
  rfl

namespace StringColumn

/--
The records of a column lie behind one another: the offsets start at zero, none
is greater than the next, and the last one counts the bytes.  The rows that
have no record yet are valid.
-/
structure WellFormed (column : StringColumn) : Prop where
  first : column.offsets[0]? = some 0
  ordered :
    ∀ (place : Nat) {before behind : Int32},
      column.offsets[place]? = some before →
        column.offsets[place + 1]? = some behind →
          before.toInt ≤ behind.toInt
  last :
    ∃ stop,
      column.offsets[column.count]? = some stop ∧
        stop.toInt = column.chars.size
  unused :
    ∀ row,
      column.count ≤ row →
        row < column.mask.rows → column.mask.bit row = true

theorem ofCells_wellFormed
    {rows : Nat}
    {cells : List TextCell}
    (fits : TextFits cells) :
    (ofCells rows cells).WellFormed where
  first := by
    rw [offsets_ofCells_getElem? (Nat.zero_le _), textBefore_zero]
    rfl
  ordered := fun _ => offsets_ofCells_le fits
  last := by
    rw [count_ofCells]
    refine ⟨_, offsets_ofCells_getElem? (Nat.le_refl _), ?_⟩
    rw [textBefore_length, toInt_ofNat_of_lt fits]
    rfl
  unused := by
    intro row beyond inside
    rw [count_ofCells] at beyond
    have isRow : row < rows := inside.trans_eq (NullBitmap.rows_ofTest rows _)
    show (NullBitmap.ofTest rows _).bit row = true
    rw [NullBitmap.bit_ofTest _ isRow, List.getElem?_eq_none beyond]
    rfl

theorem start_wellFormed (rows : Nat) : (start rows).WellFormed := by
  rw [start_eq_ofCells]
  exact ofCells_wellFormed TextFits.nil

/--
A well-formed column is laid out from cells, one for each record: its offsets pass
the checks of a store, and what passes them is cut from records.
-/
theorem WellFormed.exists_ofCells
    {column : StringColumn}
    (wellFormed : column.WellFormed) :
    ∃ cells,
      TextFits cells ∧
        cells.length = column.count ∧
          column = ofCells column.mask.rows cells := by
  have starts : column.offsets.toList.head? = some 0 := by
    rw [List.head?_eq_getElem?, Array.getElem?_toList]
    exact wellFormed.first
  have ordered : isNonDecreasing column.offsets.toList = true := by
    refine isNonDecreasing_of_steps ?_
    intro place before behind foundBefore foundBehind
    rw [Array.getElem?_toList] at foundBefore foundBehind
    exact wellFormed.ordered place foundBefore foundBehind
  rcases wellFormed.last with ⟨stop, stopFound, stopEqual⟩
  have ends :
      (column.offsets.toList.getLast?.getD 0).toInt.toNat =
        column.chars.toList.length := by
    rw [List.getLast?_eq_getElem?, Array.getElem?_toList, Array.length_toList,
      Array.length_toList]
    show (column.offsets[column.count]?.getD 0).toInt.toNat = _
    rw [stopFound, Option.getD_some, stopEqual, Int.toNat_natCast]
  have checked :
      checkOffsets column.chars.toList.length column.offsets.toList = .ok () := by
    rw [checkOffsets, if_neg (not_not_intro starts), ordered, ends]
    simp
  rcases (checkOffsets_eq_ok_iff _ _).1 checked with ⟨records, cuts⟩
  have count : records.length = column.count := by
    have lengths := congrArg List.length cuts.offsets
    rw [List.length_map, List.length_map, length_runningTotals,
      Array.length_toList] at lengths
    rw [StringColumn.count]
    omega
  rw [← count]
  refine exists_ofCells_of_begun column ?_ cuts
  intro row beyond inside
  exact wellFormed.unused row (count ▸ beyond) inside

/--
Draws the length and the characters of a record and ends it; then its validity
is drawn and settled.
-/
def appendDrawn
    (column : StringColumn)
    (lengths : Poisson)
    (nulls : NullRule) :
    ExceptT BuildError Draw StringColumn := do
  let row := column.count
  let length ← (lengths.draw : Draw Float)
  let chars ←
    (Draw.repeated length.toUInt64.toNat drawCharacter : Draw (Array UInt8))
  let longer ← (column.extend chars).pushOffset
  let valid ← (nulls.drawValid : Draw Bool)
  return longer.settle row valid

/--
What is drawn and appended, or refused, is the cell that is drawn in advance;
unless it is refused, the engine is left where drawing the cell leaves it.
-/
theorem exists_appendDrawn_run
    {lengths : Poisson}
    {nulls : NullRule}
    {engine rest : Engine}
    {cell : TextCell}
    (column : StringColumn)
    (drawn : (drawTextCell lengths nulls).run engine = (cell, rest)) :
    ∃ last,
      (column.appendDrawn lengths nulls).run.run engine =
          (column.append cell.chars cell.valid, last) ∧
        ∀ longer,
          column.append cell.chars cell.valid = .ok longer → last = rest := by
  rcases lengthDrawn : lengths.draw.run engine with ⟨length, afterLength⟩
  rcases charsDrawn :
      (Draw.repeated length.toUInt64.toNat drawCharacter).run afterLength with
    ⟨chars, afterChars⟩
  rcases validDrawn : nulls.drawValid.run afterChars with ⟨valid, afterValid⟩
  have own :
      (drawTextCell lengths nulls).run engine = (⟨chars, valid⟩, afterValid) := by
    rw [drawTextCell, StateT.run_bind, lengthDrawn]
    show (Draw.repeated _ _ >>= _).run afterLength = _
    rw [StateT.run_bind, charsDrawn]
    show (nulls.drawValid >>= _).run afterChars = _
    rw [StateT.run_bind, validDrawn]
    rfl
  cases own.symm.trans drawn
  rw [appendDrawn,
    CheckedDraw.run_bind_of_ok (CheckedDraw.run_draw lengthDrawn),
    CheckedDraw.run_bind_of_ok (CheckedDraw.run_draw charsDrawn), append]
  cases ended : (column.extend chars).pushOffset with
  | error error =>
      refine ⟨afterChars, ?_, fun _ appended => by cases appended⟩
      exact CheckedDraw.run_bind_of_error (CheckedDraw.run_computed _ _) _
  | ok longer =>
      refine ⟨rest, ?_, fun _ _ => rfl⟩
      rw [CheckedDraw.run_bind_of_ok (CheckedDraw.run_computed _ _),
        CheckedDraw.run_bind_of_ok (CheckedDraw.run_draw validDrawn)]
      rfl

/--
A column with one more record: it is well-formed, the rows of the other records
say what they said, and the row of the new one says what was appended.
-/
structure Appends
    (column : StringColumn)
    (content : ColumnRow)
    (longer : StringColumn) : Prop where
  wellFormed : longer.WellFormed
  rows : longer.mask.rows = column.mask.rows
  count : longer.count = column.count + 1
  earlier :
    ∀ row,
      row < column.count →
        ∃ content,
          column.toColumn.HasRow row content ∧
            longer.toColumn.HasRow row content
  last : longer.toColumn.HasRow column.count content

section Appending

variable {column longer : StringColumn}

theorem WellFormed.append
    {cell : TextCell}
    (wellFormed : column.WellFormed)
    (room : column.count < column.mask.rows)
    (appended : column.append cell.chars cell.valid = .ok longer) :
    column.Appends cell.row longer := by
  rcases wellFormed.exists_ofCells with ⟨cells, fits, count, laidOut⟩
  generalize column.mask.rows = rows at room laidOut
  subst laidOut
  rcases append_ofCells_eq_ok_iff.1 appended with ⟨longerFits, rfl⟩
  rw [count_ofCells] at room
  refine ⟨ofCells_wellFormed longerFits, ?_, ?_, ?_, ?_⟩
  · exact (NullBitmap.rows_ofTest rows _).trans (NullBitmap.rows_ofTest rows _).symm
  · simp
  · intro row earlier
    rw [count_ofCells] at earlier
    have inside : row < rows := earlier.trans room
    have found := List.getElem?_eq_getElem earlier
    have kept := getElem?_append_of_some found [cell]
    exact ⟨_, ofCells_hasRow fits inside found, ofCells_hasRow longerFits inside kept⟩
  · rw [count_ofCells]
    exact ofCells_hasRow longerFits room (by simp)

/-- A record that is drawn is appended like the cell of the same draws. -/
theorem WellFormed.appendDrawn
    {lengths : Poisson}
    {nulls : NullRule}
    {engine last : Engine}
    (wellFormed : column.WellFormed)
    (room : column.count < column.mask.rows)
    (appended :
      (column.appendDrawn lengths nulls).run.run engine = (.ok longer, last)) :
    ∃ cell,
      (drawTextCell lengths nulls).run engine = (cell, last) ∧
        column.Appends cell.row longer := by
  rcases drawn : (drawTextCell lengths nulls).run engine with ⟨cell, rest⟩
  rcases exists_appendDrawn_run column drawn with ⟨left, ran, leftEqual⟩
  rcases Prod.mk.inj (ran.symm.trans appended) with ⟨put, rfl⟩
  rw [leftEqual longer put]
  exact ⟨cell, rfl, wellFormed.append room put⟩

/-- Every record of a well-formed column that has a row can be read. -/
theorem WellFormed.exists_cell
    {index : Nat}
    (wellFormed : column.WellFormed)
    (isRecord : index < column.count)
    (isRow : index < column.mask.rows) :
    ∃ cell : TextCell,
      column.toColumn.HasRow index cell.row ∧
        column.record index = cell.chars ∧
          column.mask.bit index = cell.valid := by
  rcases wellFormed.exists_ofCells with ⟨cells, fits, count, laidOut⟩
  generalize column.mask.rows = rows at isRow laidOut
  subst laidOut
  rw [count_ofCells] at isRecord
  have found := List.getElem?_eq_getElem isRecord
  exact ⟨_, ofCells_hasRow fits isRow found, record_ofCells fits found,
    bit_ofCells isRow found⟩

theorem WellFormed.copyFrom
    {source : StringColumn}
    {index : Nat}
    (wellFormed : column.WellFormed)
    (room : column.count < column.mask.rows)
    (sourceWellFormed : source.WellFormed)
    (isRecord : index < source.count)
    (isRow : index < source.mask.rows)
    (copied : column.copyFrom source index = .ok longer) :
    ∃ content,
      source.toColumn.HasRow index content ∧ column.Appends content longer := by
  rcases sourceWellFormed.exists_cell isRecord isRow with
    ⟨cell, hasRow, record, valid⟩
  rw [copyFrom_eq, record, valid] at copied
  exact ⟨cell.row, hasRow, wellFormed.append room copied⟩

end Appending

/--
One record is appended to a well-formed column in which some row is left:
whatever cell is given for it, whatever is drawn for it, whichever record with a
row of the mask it is copied from and whichever record of the column it repeats.
The column is well-formed with one record more, the earlier rows are the same,
and the new row has the bytes and the validity of what was given or drawn or of
the record, also if that one is null.
-/
theorem appended_records_stand_last
    {column : StringColumn}
    (wellFormed : column.WellFormed)
    (room : column.count < column.mask.rows) :
    (∀ (cell : TextCell) (longer : StringColumn),
      column.append cell.chars cell.valid = .ok longer →
        column.Appends cell.row longer) ∧
    (∀ (lengths : Poisson) (nulls : NullRule) (engine last : Engine)
        (longer : StringColumn),
      (column.appendDrawn lengths nulls).run.run engine = (.ok longer, last) →
        ∃ cell,
          (drawTextCell lengths nulls).run engine = (cell, last) ∧
            column.Appends cell.row longer) ∧
    (∀ (source : StringColumn) (index : Nat) (longer : StringColumn),
      source.WellFormed →
        index < source.count →
          index < source.mask.rows →
            column.copyFrom source index = .ok longer →
              ∃ content,
                source.toColumn.HasRow index content ∧
                  column.Appends content longer) ∧
    ∀ (index : Nat) (longer : StringColumn),
      index < column.count →
        column.repeatRecord index = .ok longer →
          ∃ content,
            column.toColumn.HasRow index content ∧
              column.Appends content longer := by
  refine ⟨?_, ?_, ?_, ?_⟩
  · intro cell longer appended
    exact wellFormed.append room appended
  · intro lengths nulls engine last longer appended
    exact wellFormed.appendDrawn room appended
  · intro source index longer sourceWellFormed isRecord isRow copied
    exact wellFormed.copyFrom room sourceWellFormed isRecord isRow copied
  · intro index longer isRecord repeated
    have copied : column.copyFrom column index = .ok longer := by
      rw [copyFrom_eq, ← repeatRecord_eq]
      exact repeated
    exact wellFormed.copyFrom room wellFormed isRecord (isRecord.trans room) copied

/--
A null record of two bytes is appended to a column of three rows; then it is
repeated, and copied from the shorter column.
-/
theorem appended_records_stand_last_null :
    (start 3).WellFormed ∧
      (start 3).count < (start 3).mask.rows ∧
        ∃ one two three,
          (start 3).append #[97, 98] false = .ok one ∧
            one.repeatRecord 0 = .ok two ∧
              two.copyFrom one 0 = .ok three ∧
                three.WellFormed ∧
                  three.count = 3 ∧
                    three.toColumn.HasRow 2 ⟨[97, 98], false⟩ := by
  have room : (start 3).count < (start 3).mask.rows := by decide
  obtain ⟨one, two, three, appended, repeated, copied⟩ :
      ∃ one two three,
        (start 3).append #[97, 98] false = .ok one ∧
          one.repeatRecord 0 = .ok two ∧ two.copyFrom one 0 = .ok three := by
    simp only [repeatRecord_eq, copyFrom_eq]
    exact ⟨_, _, _, rfl, rfl, rfl⟩
  have first :=
    (appended_records_stand_last (start_wellFormed 3) room).1
      ⟨#[97, 98], false⟩ one appended
  have oneCount : one.count = 1 := first.count
  have oneRows : one.mask.rows = 3 := first.rows
  rcases
      (appended_records_stand_last first.wellFormed (by omega)).2.2.2 0 two
        (by omega) repeated with
    ⟨_, -, second⟩
  have twoCount : two.count = 2 := by rw [second.count, oneCount]
  have twoRows : two.mask.rows = 3 := by rw [second.rows, oneRows]
  rcases
      (appended_records_stand_last second.wellFormed (by omega)).2.2.1 one 0 three
        first.wellFormed (by omega) (by omega) copied with
    ⟨content, hasRow, third⟩
  have nullRecord : content = ⟨[97, 98], false⟩ := hasRow.unique first.last
  have threeCount : three.count = 3 := by rw [third.count, twoCount]
  have last := third.last
  rw [twoCount, nullRecord] at last
  exact ⟨start_wellFormed 3, room, one, two, three, appended, repeated, copied,
    third.wellFormed, threeCount, last⟩

end StringColumn

end SyntheticTable
