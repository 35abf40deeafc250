import Mathlib.Algebra.Ring.Nat
import SyntheticTable.Proofs.Summaries

/-!
# Validated columns

A column that passes the checks of a store is nothing but its records.  The
checks look at the offsets of a string column only locally: the first is zero,
none is greater than the next and the last is the number of bytes.  That is
enough to cut the bytes into records in exactly one way, so every row can be
read, and what is read determines the buffers and the bitmap bit by bit.
-/

namespace SyntheticTable

/-! ## Offsets as running totals -/

/-- The running totals of the lengths of records, from a total on. -/
def runningTotals : (total : Nat) → List (List UInt8) → List Nat
  | total, [] => [total]
  | total, record :: records =>
      total :: runningTotals (total + record.length) records

/--
Offsets cut bytes into records: the bytes are those of the records one after
the other, and the offsets are the running totals of their lengths.
-/
structure Cuts
    (bytes : List UInt8)
    (offsets : List Int32)
    (records : List (List UInt8)) : Prop where
  bytes : records.flatten = bytes
  offsets :
    offsets.map Int32.toInt = (runningTotals 0 records).map Int.ofNat

theorem length_runningTotals
    (total : Nat)
    (records : List (List UInt8)) :
    (runningTotals total records).length = records.length + 1 := by
  induction records generalizing total with
  | nil => rfl
  | cons record records inductionHypothesis =>
      rw [runningTotals, List.length_cons, inductionHypothesis, List.length_cons]

/-- The total at a place counts the bytes of the records before it. -/
theorem runningTotals_eq_map
    (total : Nat)
    (records : List (List UInt8)) :
    runningTotals total records =
      (List.range (records.length + 1)).map fun place =>
        total + (records.take place).flatten.length := by
  induction records generalizing total with
  | nil => rfl
  | cons record records inductionHypothesis =>
      rw [runningTotals, inductionHypothesis, List.length_cons,
        List.range_succ_eq_map (n := records.length + 1), List.map_cons,
        List.map_map]
      congr 1
      refine List.map_congr_left ?_
      intro place member
      simp [Nat.add_assoc]

theorem first_le_last
    {first : Int32}
    {rest : List Int32}
    (ordered : isNonDecreasing (first :: rest) = true) :
    first.toInt ≤ ((first :: rest).getLast?.getD 0).toInt := by
  induction rest generalizing first with
  | nil => exact Int.le_refl _
  | cons second rest inductionHypothesis =>
      rw [isNonDecreasing, Bool.and_eq_true, decide_eq_true_iff] at ordered
      rw [List.getLast?_cons_cons]
      exact Int.le_trans ordered.1 (inductionHypothesis ordered.2)

/--
Offsets in order cut the bytes between the first and the last of them.
-/
theorem exists_records_of_isNonDecreasing
    {first : Int32}
    {rest : List Int32}
    {total : Nat}
    {bytes : List UInt8}
    (ordered : isNonDecreasing (first :: rest) = true)
    (starts : first.toInt = total)
    (ends :
      ((first :: rest).getLast?.getD 0).toInt = total + bytes.length) :
    ∃ records : List (List UInt8),
      records.flatten = bytes ∧
        (first :: rest).map Int32.toInt =
          (runningTotals total records).map Int.ofNat := by
  induction rest generalizing first total bytes with
  | nil =>
      have nothing : bytes = [] := by
        have same : first.toInt = total + bytes.length := ends
        rw [← List.length_eq_zero_iff]
        omega
      subst nothing
      exact ⟨[], rfl, by simp [runningTotals, starts]⟩
  | cons second rest inductionHypothesis =>
      have later := ordered
      rw [isNonDecreasing, Bool.and_eq_true, decide_eq_true_iff] at later
      rw [List.getLast?_cons_cons] at ends
      have within := first_le_last later.2
      obtain ⟨length, reaches⟩ :
          ∃ length : Nat, second.toInt = total + length :=
        ⟨(second.toInt - total).toNat, by omega⟩
      have inside : length ≤ bytes.length := by omega
      have startsLater : second.toInt = (total + length : Nat) := by omega
      have endsLater :
          ((second :: rest).getLast?.getD 0).toInt =
            (total + length : Nat) + (bytes.drop length).length := by
        rw [List.length_drop]
        omega
      rcases inductionHypothesis later.2 startsLater endsLater with
        ⟨records, flatten, totals⟩
      refine ⟨bytes.take length :: records, ?_, ?_⟩
      · rw [List.flatten_cons, flatten, List.take_append_drop]
      · rw [List.map_cons, totals, runningTotals, List.map_cons, starts,
          List.length_take, Nat.min_eq_left inside]
        rfl

/-- Running totals are in order, and the last counts all bytes. -/
theorem isNonDecreasing_of_totals
    {offsets : List Int32}
    {total : Nat}
    {records : List (List UInt8)}
    (totals :
      offsets.map Int32.toInt = (runningTotals total records).map Int.ofNat) :
    isNonDecreasing offsets = true ∧
      (offsets.getLast?.getD 0).toInt = total + records.flatten.length := by
  induction records generalizing offsets total with
  | nil =>
      rcases List.map_eq_singleton_iff.1 totals with ⟨offset, rfl, only⟩
      refine ⟨rfl, ?_⟩
      simpa using only
  | cons record records inductionHypothesis =>
      rcases List.map_eq_cons_iff.1 totals with ⟨first, rest, rfl, starts, later⟩
      rcases inductionHypothesis later with ⟨ordered, ends⟩
      cases rest with
      | nil =>
          have lengths := congrArg List.length later
          simp [length_runningTotals] at lengths
      | cons second rest =>
          have next : second.toInt = (total + record.length : Nat) := by
            cases records <;> exact (List.cons.inj later).1
          have starts : first.toInt = (total : Nat) := starts
          refine ⟨?_, ?_⟩
          · rw [isNonDecreasing, ordered, Bool.and_true, decide_eq_true_iff]
            omega
          · rw [List.getLast?_cons_cons, ends, List.flatten_cons,
              List.length_append]
            omega

/-- Offsets pass the checks exactly when they cut the bytes into records. -/
theorem checkOffsets_eq_ok_iff
    (bytes : List UInt8)
    (offsets : List Int32) :
    checkOffsets bytes.length offsets = .ok () ↔
      ∃ records, Cuts bytes offsets records := by
  unfold checkOffsets
  constructor
  · intro checked
    split at checked
    · cases checked
    · rename_i startsAtZero
      split at checked
      · cases checked
      · rename_i inOrder
        have ordered : isNonDecreasing offsets = true := by simpa using inOrder
        simp only at checked
        split at checked
        · rename_i ends
          have headed := not_not.1 startsAtZero
          cases offsets with
          | nil => cases headed
          | cons first rest =>
              cases Option.some.inj headed
              have nonNegative :
                  0 ≤ (((0 : Int32) :: rest).getLast?.getD 0).toInt :=
                first_le_last ordered
              have endsHere :
                  (((0 : Int32) :: rest).getLast?.getD 0).toInt =
                    (0 : Nat) + bytes.length := by
                omega
              rcases exists_records_of_isNonDecreasing ordered rfl endsHere with
                ⟨records, flatten, totals⟩
              exact ⟨records, flatten, totals⟩
        · cases checked
  · rintro ⟨records, cuts⟩
    rcases isNonDecreasing_of_totals cuts.offsets with ⟨ordered, ends⟩
    have headed : offsets.head? = some 0 := by
      cases offsets with
      | nil =>
          have lengths := congrArg List.length cuts.offsets
          simp [length_runningTotals] at lengths
      | cons first rest =>
          have starts : first.toInt = (0 : Int32).toInt := by
            have totals := cuts.offsets
            cases records <;> exact (List.cons.inj totals).1
          rw [List.head?_cons, Int32.toInt_inj.1 starts]
    rw [if_neg (not_not_intro headed), ordered, ends, cuts.bytes]
    simp

/-! ## Records of fixed-width values -/

namespace FixedType

theorem bits_lt (type : FixedType) (value : type.Value) :
    type.bits value < Nat.pow 256 type.width := by
  cases type with
  | bool => exact Nat.lt_trans (Bool.toNat_lt value) (by decide)
  | int8 => exact UInt8.toNat_lt _
  | int16 => exact UInt16.toNat_lt _
  | int32 => exact UInt32.toNat_lt _
  | int64 => exact UInt64.toNat_lt _
  | uint8 => exact UInt8.toNat_lt _
  | uint16 => exact UInt16.toNat_lt _
  | uint32 => exact UInt32.toNat_lt _
  | uint64 => exact UInt64.toNat_lt _
  | float32 => exact UInt32.toNat_lt _
  | float64 => exact UInt64.toNat_lt _
  | timestamp unit => exact UInt64.toNat_lt _
  | duration unit => exact UInt64.toNat_lt _
  | decimal32 => exact UInt32.toNat_lt _
  | decimal64 => exact UInt64.toNat_lt _

theorem bits_injective (type : FixedType) : Function.Injective type.bits := by
  intro left right equal
  cases type with
  | bool => cases left <;> cases right <;> first | rfl | cases equal
  | int8 => exact congrArg UInt8.toInt8 (UInt8.toNat_inj.1 equal)
  | int16 => exact congrArg UInt16.toInt16 (UInt16.toNat_inj.1 equal)
  | int32 => exact congrArg UInt32.toInt32 (UInt32.toNat_inj.1 equal)
  | int64 => exact congrArg UInt64.toInt64 (UInt64.toNat_inj.1 equal)
  | uint8 => exact UInt8.toNat_inj.1 equal
  | uint16 => exact UInt16.toNat_inj.1 equal
  | uint32 => exact UInt32.toNat_inj.1 equal
  | uint64 => exact UInt64.toNat_inj.1 equal
  | float32 => exact congrArg Single.mk (UInt32.toNat_inj.1 equal)
  | float64 => exact congrArg Double.mk (UInt64.toNat_inj.1 equal)
  | timestamp unit => exact congrArg UInt64.toInt64 (UInt64.toNat_inj.1 equal)
  | duration unit => exact congrArg UInt64.toInt64 (UInt64.toNat_inj.1 equal)
  | decimal32 => exact congrArg UInt32.toInt32 (UInt32.toNat_inj.1 equal)
  | decimal64 => exact congrArg UInt64.toInt64 (UInt64.toNat_inj.1 equal)

theorem record_injective (type : FixedType) : Function.Injective type.record := by
  intro left right equal
  apply type.bits_injective
  exact littleEndian_injective (type.bits_lt left) (type.bits_lt right) equal

end FixedType

/-! ## What a validated column holds -/

/--
A column passes the checks exactly when it has as many records as rows, and for
strings the offsets cut the bytes into records.
-/
theorem Column.validate_eq_ok_iff (column : Column) :
    column.validate = .ok () ↔
      column.data.count = column.rowCount ∧
        ∀ chars offsets,
          column.data = .string chars offsets →
            ∃ records : List (List UInt8),
              records.length = column.rowCount ∧
                Cuts chars.toList offsets.toList records := by
  by_cases counted : column.data.count = column.rowCount
  · rw [validate_of_counted counted]
    rcases column with ⟨data, mask⟩
    cases data with
    | fixed type values => simp [counted, ColumnData.checkCuts]
    | string chars offsets =>
        simp only [ColumnData.checkCuts, mapError_eq_ok_iff,
          ← Array.length_toList, checkOffsets_eq_ok_iff]
        constructor
        · rintro ⟨records, cuts⟩
          refine ⟨counted, ?_⟩
          intro otherChars otherOffsets equal
          cases equal
          refine ⟨records, ?_, cuts⟩
          have lengths := congrArg List.length cuts.offsets
          rw [List.length_map, List.length_map, length_runningTotals] at lengths
          have counted : offsets.size - 1 = mask.rows := counted
          show records.length = mask.rows
          rw [Array.length_toList] at lengths
          omega
        · rintro ⟨-, cut⟩
          rcases cut chars offsets rfl with ⟨records, -, cuts⟩
          exact ⟨records, cuts⟩
  · rw [validate, if_pos counted]
    simp [counted]

namespace StringColumn

/-- The offsets that cut bytes into the texts of cells are those of the cells. -/
theorem offsets_of_cuts
    {rows : Nat}
    {bytes : List UInt8}
    {offsets : Array Int32}
    {cells : List TextCell}
    (cuts :
      Cuts bytes offsets.toList (cells.map fun cell => cell.chars.toList)) :
    offsets = (ofCells rows cells).offsets := by
  have totals := congrArg (List.map Int32.ofInt) cuts.offsets
  rw [List.map_map, List.map_map, runningTotals_eq_map, List.map_map] at totals
  have identity : Int32.ofInt ∘ Int32.toInt = id := funext Int32.ofInt_toInt
  apply Array.toList_inj.1
  rw [identity, List.map_id] at totals
  rw [totals, List.length_map]
  show _ = (List.range (cells.length + 1)).map _
  refine List.map_congr_left ?_
  intro place member
  have bytesBefore :
      ((cells.map fun cell => cell.chars.toList).take place).flatten.length =
        textBefore cells place := by
    rw [textBefore, textOf, List.flatMap_def, List.map_take]
  show Int32.ofInt (Int.ofNat (0 + _)) = _
  rw [Nat.zero_add, bytesBefore]
  rfl

/--
A string column that is cut into records, and in which the rows without a
record are valid, is laid out from cells.
-/
theorem exists_ofCells_of_begun
    (column : StringColumn)
    {records : List (List UInt8)}
    (unused :
      ∀ row,
        records.length ≤ row →
          row < column.mask.rows → column.mask.bit row = true)
    (cuts : Cuts column.chars.toList column.offsets.toList records) :
    ∃ cells,
      TextFits cells ∧
        cells.length = records.length ∧
          column = ofCells column.mask.rows cells := by
  rcases column with ⟨chars, offsets, mask⟩
  let cells : List TextCell :=
    records.mapIdx fun row record => ⟨record.toArray, mask.bit row⟩
  have texts : (cells.map fun cell => cell.chars.toList) = records := by
    refine List.ext_getElem? ?_
    intro row
    rw [List.getElem?_map, List.getElem?_mapIdx, Option.map_map]
    exact Option.map_id'
  have text : textOf cells = chars.toList := by
    rw [← cuts.bytes, textOf, List.flatMap_def, texts]
  have count : cells.length = records.length := List.length_mapIdx
  have fits : TextFits cells := by
    have ends := (isNonDecreasing_of_totals cuts.offsets).2
    have small := Int32.toInt_lt (offsets.toList.getLast?.getD 0)
    rw [ends, cuts.bytes, ← text] at small
    show (textOf cells).length < twoTo 31
    have limit : twoTo 31 = 2 ^ 31 := rfl
    omega
  refine ⟨cells, fits, count, ?_⟩
  have bytes : chars = (ofCells mask.rows cells).chars := by
    apply Array.toList_inj.1
    exact text.symm
  have maskEqual : mask = (ofCells mask.rows cells).mask := by
    refine NullBitmap.eq_ofTest rfl ?_
    intro row inside
    by_cases within : row < records.length
    · simp [cells, within]
    · have valid := unused row (Nat.le_of_not_lt within) inside
      simpa [cells, within] using valid
  rw [← texts] at cuts
  have sameOffsets : offsets = (ofCells mask.rows cells).offsets :=
    offsets_of_cuts cuts
  show (⟨chars, offsets, mask⟩ : StringColumn) =
    ⟨(ofCells mask.rows cells).chars, (ofCells mask.rows cells).offsets,
      (ofCells mask.rows cells).mask⟩
  rw [← bytes, ← sameOffsets, ← maskEqual]

/-- A string column with a record for every row is laid out from cells. -/
theorem exists_ofCells_of_cuts
    {chars : Array UInt8}
    {offsets : Array Int32}
    {mask : NullBitmap}
    {records : List (List UInt8)}
    (count : records.length = mask.rows)
    (cuts : Cuts chars.toList offsets.toList records) :
    ∃ cells,
      TextFits cells ∧
        cells.length = mask.rows ∧
          (⟨.string chars offsets, mask⟩ : Column) =
            (ofCells mask.rows cells).toColumn := by
  have unused :
      ∀ row, records.length ≤ row → row < mask.rows → mask.bit row = true := by
    intro row beyond inside
    omega
  rcases exists_ofCells_of_begun ⟨chars, offsets, mask⟩ unused cuts with
    ⟨cells, fits, complete, equal⟩
  exact ⟨cells, fits, complete.trans count, congrArg toColumn equal⟩

end StringColumn

theorem TextCell.row_injective :
    Function.Injective TextCell.row := by
  rintro ⟨⟨leftChars⟩, leftValid⟩ ⟨⟨rightChars⟩, rightValid⟩ equal
  cases equal
  rfl

namespace Column

variable
    {column left right : Column}
    {rows others : List ColumnRow}

/-- How many bytes the offsets of a column take. -/
def offsetBytes (column : Column) : Nat :=
  if column.semanticType = .string then 4 * (column.rowCount + 1) else 0

theorem holds_of_fixed
    {type : FixedType}
    {values : Array type.Value}
    {mask : NullBitmap}
    (count : values.size = mask.rows) :
    (⟨.fixed type values, mask⟩ : Column).Holds
      (values.toList.mapIdx fun row value =>
        ⟨type.record value, mask.bit row⟩) := by
  refine .of_bit_record ?_ ?_ ?_
  · rw [List.length_mapIdx, Array.length_toList]
    exact count.symm
  · intro row content found
    rw [List.getElem?_mapIdx, Option.map_eq_some_iff] at found
    rcases found with ⟨value, -, rfl⟩
    rfl
  · intro row content found
    rw [List.getElem?_mapIdx, Option.map_eq_some_iff] at found
    rcases found with ⟨value, valueFound, rfl⟩
    rw [Array.getElem?_toList] at valueFound
    show (values[row]?).map type.record = _
    rw [valueFound]
    rfl

/-- A validated column can be read at every row, and its buffers take no more than that. -/
theorem exists_holds_of_validate
    (valid : column.validate = .ok ()) :
    ∃ rows,
      column.Holds rows ∧
        column.data.byteSize =
          (rows.map fun row => row.record.length).sum + column.offsetBytes := by
  rcases column with ⟨data, mask⟩
  rcases (validate_eq_ok_iff _).1 valid with ⟨count, cut⟩
  cases data with
  | fixed type values =>
      refine ⟨_, holds_of_fixed count, ?_⟩
      have widths :
          ((values.toList.mapIdx fun row value =>
              (⟨type.record value, mask.bit row⟩ : ColumnRow)).map
            fun row => row.record.length) =
            List.replicate values.size type.width := by
        refine List.eq_replicate_iff.2 ⟨by simp, ?_⟩
        intro length member
        simp only [List.mem_map, List.mem_mapIdx] at member
        rcases member with ⟨_, ⟨_, _, rfl⟩, rfl⟩
        exact FixedType.length_record type _
      rw [widths, List.sum_replicate_nat]
      rfl
  | string chars offsets =>
      rcases cut chars offsets rfl with ⟨records, length, cuts⟩
      rcases StringColumn.exists_ofCells_of_cuts length cuts with
        ⟨cells, fits, complete, equal⟩
      rw [equal]
      refine ⟨_, StringColumn.ofCells_holds fits complete, ?_⟩
      have rowCount :
          (StringColumn.ofCells mask.rows cells).toColumn.rowCount = cells.length := by
        rw [complete]
        exact NullBitmap.rows_ofTest _ _
      have lengths :
          ((cells.map TextCell.row).map fun row => row.record.length) =
            cells.map fun cell => cell.chars.toList.length := by
        rw [List.map_map]
        rfl
      have offsetCount :
          (StringColumn.ofCells mask.rows cells).offsets.size = cells.length + 1 := by
        simp [StringColumn.ofCells]
      rw [lengths, ← List.length_flatMap, offsetBytes, rowCount]
      show _ + (StringColumn.ofCells mask.rows cells).offsets.size * 4 = _
      rw [offsetCount, Nat.mul_comm]
      rfl

/-! ## What is read determines the column -/

theorem Holds.unique
    (holds : column.Holds rows)
    (holdsOthers : column.Holds others) :
    rows = others := by
  have count := holds.rowCount.symm.trans holdsOthers.rowCount
  refine List.ext_getElem count ?_
  intro row inside otherInside
  have found := List.getElem?_eq_getElem inside
  have otherFound := List.getElem?_eq_getElem otherInside
  have valid := (holds.bit found).symm.trans (holdsOthers.bit otherFound)
  have record :=
    Except.ok.inj ((holds.record? found).symm.trans (holdsOthers.record? otherFound))
  rcases content : rows[row] with ⟨_, _⟩
  rcases otherContent : others[row] with ⟨_, _⟩
  rw [content, otherContent] at valid record
  cases valid
  cases record
  rfl

/-- A column that reads the same at every row holds the same rows. -/
theorem Holds.of_same_readings
    (holds : left.Holds rows)
    (sameCount : left.rowCount = right.rowCount)
    (same :
      ∀ row,
        row < left.rowCount →
          left.isValid? row = right.isValid? row ∧
            left.record? row = right.record? row) :
    right.Holds rows where
  rowCount := sameCount.symm.trans holds.rowCount
  isValid? := by
    intro row content found
    rcases List.getElem?_eq_some_iff.1 found with ⟨inside, -⟩
    rw [← holds.isValid? found, (same row (holds.rowCount ▸ inside)).1]
  record? := by
    intro row content found
    rcases List.getElem?_eq_some_iff.1 found with ⟨inside, -⟩
    rw [← holds.record? found, (same row (holds.rowCount ▸ inside)).2]

theorem Holds.mask_eq
    (leftHolds : left.Holds rows)
    (rightHolds : right.Holds rows) :
    left.mask = right.mask := by
  apply NullBitmap.ext_rows (leftHolds.rowCount.trans rightHolds.rowCount.symm)
  intro row inside
  rcases leftHolds.exists_row inside with ⟨content, found, -⟩
  rw [leftHolds.bit found, rightHolds.bit found]

theorem Holds.values_eq
    {type : FixedType}
    {leftValues rightValues : Array type.Value}
    {leftMask rightMask : NullBitmap}
    (leftCount : leftValues.size = leftMask.rows)
    (rightCount : rightValues.size = rightMask.rows)
    (leftHolds : (⟨.fixed type leftValues, leftMask⟩ : Column).Holds rows)
    (rightHolds : (⟨.fixed type rightValues, rightMask⟩ : Column).Holds rows) :
    leftValues = rightValues := by
  have rowsEqual :=
    ((holds_of_fixed leftCount).unique leftHolds).trans
      ((holds_of_fixed rightCount).unique rightHolds).symm
  have sizes : leftValues.size = rightValues.size := by
    simpa using congrArg List.length rowsEqual
  refine Array.ext sizes ?_
  intro row leftInside rightInside
  apply type.record_injective
  have entry := congrArg (fun rows => rows[row]?.map ColumnRow.record) rowsEqual
  simpa [leftInside, rightInside] using entry

/-- A validated column is known from its kind and from what is read at its rows. -/
theorem eq_of_holds
    (leftValid : left.validate = .ok ())
    (rightValid : right.validate = .ok ())
    (sameType : left.semanticType = right.semanticType)
    (leftHolds : left.Holds rows)
    (rightHolds : right.Holds rows) :
    left = right := by
  have sameMask := leftHolds.mask_eq rightHolds
  rcases left with ⟨leftData, mask⟩
  rcases right with ⟨rightData, rightMask⟩
  cases sameMask
  rcases (validate_eq_ok_iff _).1 leftValid with ⟨leftCount, leftCut⟩
  rcases (validate_eq_ok_iff _).1 rightValid with ⟨rightCount, rightCut⟩
  cases leftData with
  | fixed type leftValues =>
      cases rightData with
      | fixed other rightValues =>
          cases sameType
          rw [Holds.values_eq leftCount rightCount leftHolds rightHolds]
      | string chars offsets => cases sameType
  | string leftChars leftOffsets =>
      cases rightData with
      | fixed other rightValues => cases sameType
      | string rightChars rightOffsets =>
          rcases leftCut leftChars leftOffsets rfl with ⟨_, leftLength, leftCuts⟩
          rcases rightCut rightChars rightOffsets rfl with
            ⟨_, rightLength, rightCuts⟩
          rcases StringColumn.exists_ofCells_of_cuts leftLength leftCuts with
            ⟨leftCells, leftFits, leftComplete, leftEqual⟩
          rcases StringColumn.exists_ofCells_of_cuts rightLength rightCuts with
            ⟨rightCells, rightFits, rightComplete, rightEqual⟩
          rw [leftEqual] at leftHolds
          rw [rightEqual] at rightHolds
          have cells : leftCells = rightCells := by
            apply List.map_injective_iff.2 TextCell.row_injective
            exact
              ((StringColumn.ofCells_holds leftFits leftComplete).unique
                  leftHolds).trans
                ((StringColumn.ofCells_holds rightFits rightComplete).unique
                  rightHolds).symm
          rw [leftEqual, rightEqual, cells]

end Column

/--
A column passes the checks exactly when it is made of records, one for each
row; then every row can be read and compared with every other, the buffers take
the bytes of the records and of the offsets, and no other column of the kind
with as many rows reads the same.
-/
theorem validated_columns_are_records :
    (∀ column : Column,
      column.validate = .ok () ↔
        column.data.count = column.rowCount ∧
          ∀ chars offsets,
            column.data = .string chars offsets →
              ∃ records : List (List UInt8),
                records.length = column.rowCount ∧
                  Cuts chars.toList offsets.toList records) ∧
    (∀ column : Column,
      column.validate = .ok () →
      ∃ rows,
        column.Holds rows ∧
          (∀ left right,
            left < column.rowCount →
            right < column.rowCount →
            ∃ equal, column.rowsEqual? left right = .ok equal) ∧
          column.data.byteSize =
            (rows.map fun row => row.record.length).sum + column.offsetBytes) ∧
    ∀ left right : Column,
      left.validate = .ok () →
      right.validate = .ok () →
      left.semanticType = right.semanticType →
      left.rowCount = right.rowCount →
      (∀ row,
        row < left.rowCount →
        left.isValid? row = right.isValid? row ∧
          left.record? row = right.record? row) →
      left = right := by
  refine ⟨Column.validate_eq_ok_iff, ?_, ?_⟩
  · intro column valid
    rcases Column.exists_holds_of_validate valid with ⟨rows, holds, byteSize⟩
    refine ⟨rows, holds, ?_, byteSize⟩
    intro left right leftInside rightInside
    rcases holds.exists_row leftInside with ⟨_, leftFound, -⟩
    rcases holds.exists_row rightInside with ⟨_, rightFound, -⟩
    exact ⟨_, holds.rowsEqual? leftFound rightFound⟩
  · intro left right leftValid rightValid sameType sameCount same
    rcases Column.exists_holds_of_validate leftValid with ⟨rows, holds, -⟩
    exact
      Column.eq_of_holds leftValid rightValid sameType holds
        (holds.of_same_readings sameCount same)

/--
Two texts, one of them empty, pass the checks and are read back; the order in
which their rows were made null cannot be told from the column.
-/
theorem validated_columns_are_records_two :
    let data : ColumnData := .string #[97, 98] #[0, 2, 2]
    let first : Column := ⟨data, ((NullBitmap.allValid 2).clear 0).clear 1⟩
    let second : Column := ⟨data, ((NullBitmap.allValid 2).clear 1).clear 0⟩
    first.validate = .ok () ∧
      second.validate = .ok () ∧
        (∃ rows, first.Holds rows ∧ first.data.byteSize = 14) ∧
          first = second := by
  intro data first second
  have firstValid : first.validate = .ok () := Column.validate_of_counted rfl
  have secondValid : second.validate = .ok () := Column.validate_of_counted rfl
  have sameType : first.semanticType = second.semanticType := by decide +kernel
  have sameCount : first.rowCount = second.rowCount := by decide +kernel
  have same :
      ∀ row,
        row < first.rowCount →
        first.isValid? row = second.isValid? row ∧
          first.record? row = second.record? row := by
    intro row inside
    have cases : row = 0 ∨ row = 1 := by
      have : first.rowCount = 2 := rfl
      omega
    rcases cases with rfl | rfl <;> decide +kernel
  rcases validated_columns_are_records.2.1 first firstValid with
    ⟨rows, holds, -, -⟩
  exact
    ⟨firstValid, secondValid, ⟨rows, holds, rfl⟩,
      validated_columns_are_records.2.2 first second firstValid secondValid
        sameType sameCount same⟩

end SyntheticTable
