import Mathlib.Algebra.Order.Floor.Div
import Mathlib.Data.Finset.Dedup
import SyntheticTable.Proofs.BitmapRows
import SyntheticTable.Proofs.Failure

/-!
# Rows made null

A bitmap is a packed set of null rows.  It starts out with the empty set, and
making a row null puts the row into the set; no other bit is touched, neither
that of another row nor one that belongs to no row.  So the zero bits of the
words count the null rows, and the order in which rows are made null leaves no
trace, nor does making one null twice.
-/

namespace SyntheticTable.NullBitmap

/-- Makes rows null one after the other; an error at the first one outside. -/
def clearEach?
    (bitmap : NullBitmap)
    (rows : List Nat) :
    Except RowOutOfBounds NullBitmap :=
  rows.foldlM clear? bitmap

/-- How many bits of a word are zero. -/
def zeroBits (word : UInt32) : Nat :=
  (List.range bitsPerWord).countP fun place => !word.toBitVec.getLsbD place

/-- The zero bits of a bitmap's words are those of a set of its rows. -/
structure Keeps (bitmap : NullBitmap) (nulls : Finset Nat) : Prop where
  inside : ∀ row ∈ nulls, row < bitmap.rows
  bitAt :
    ∀ position,
      position < bitsPerWord * bitmap.words.size →
        NullBitmap.bitAt bitmap.words position = decide (position ∉ nulls)

/-! ## Making rows null -/

theorem clear?_of_lt
    {bitmap : NullBitmap}
    {row : Nat}
    (isRow : row < bitmap.rows) :
    bitmap.clear? row = .ok (bitmap.clear row) :=
  if_pos isRow

theorem keeps_allValid (rows : Nat) : (allValid rows).Keeps ∅ where
  inside := by simp
  bitAt := by
    intro position inside
    simpa [allValid] using bitAt_replicate _ position (by simpa [allValid] using inside)

/-- A row that is made null is put into the set. -/
theorem Keeps.clear
    {bitmap : NullBitmap}
    {nulls : Finset Nat}
    {row : Nat}
    (keeps : bitmap.Keeps nulls)
    (isRow : row < bitmap.rows) :
    (bitmap.clear row).Keeps (insert row nulls) := by
  have words : (bitmap.clear row).words = clearBit bitmap.words row := by
    rw [NullBitmap.clear, dif_pos isRow]
  constructor
  · intro other member
    rw [rows_clear]
    rcases Finset.mem_insert.1 member with rfl | old
    · exact isRow
    · exact keeps.inside other old
  · intro position inside
    rw [words, size_clearBit] at inside
    rw [words, bitAt_clearBit, keeps.bitAt position inside]
    simp [Finset.mem_insert, Bool.and_comm, eq_comm]

/-- Rows of a bitmap can be made null, and then they are all in the set. -/
theorem Keeps.clearEach?
    {bitmap : NullBitmap}
    {nulls : Finset Nat}
    {rows : List Nat}
    (keeps : bitmap.Keeps nulls)
    (areRows : ∀ row ∈ rows, row < bitmap.rows) :
    ∃ cleared,
      bitmap.clearEach? rows = .ok cleared ∧
        cleared.rows = bitmap.rows ∧
          cleared.Keeps (nulls ∪ rows.toFinset) := by
  induction rows generalizing bitmap nulls with
  | nil => exact ⟨bitmap, rfl, rfl, by simpa using keeps⟩
  | cons row rows inductionHypothesis =>
      rcases List.forall_mem_cons.1 areRows with ⟨isRow, othersAreRows⟩
      rcases
          inductionHypothesis (keeps.clear isRow)
            (by simpa [rows_clear] using othersAreRows) with
        ⟨cleared, run, rowsEqual, keepsAll⟩
      refine ⟨cleared, ?_, rowsEqual.trans (rows_clear bitmap row), ?_⟩
      · rw [NullBitmap.clearEach?, List.foldlM_cons, clear?_of_lt isRow]
        exact run
      · simpa [Finset.insert_union, Finset.union_insert] using keepsAll

/-! ## Counting null rows -/

/-- A test that finds the members of a set is passed as often as it has members. -/
theorem countP_range_eq_card
    {members : Finset Nat}
    {bound : Nat}
    {test : Nat → Bool}
    (inside : ∀ member ∈ members, member < bound)
    (finds : ∀ number < bound, test number = decide (number ∈ members)) :
    (List.range bound).countP test = members.card := by
  have found : ((List.range bound).filter test).toFinset = members := by
    ext number
    simp only [List.mem_toFinset, List.mem_filter, List.mem_range]
    constructor
    · rintro ⟨below, passed⟩
      rw [finds number below] at passed
      exact of_decide_eq_true passed
    · intro member
      have below := inside number member
      exact ⟨below, by rw [finds number below]; exact decide_eq_true member⟩
  rw [List.countP_eq_length_filter, ← found,
    List.toFinset_card_of_nodup (List.nodup_range.filter test)]

/-- The zero bits of the first words, counted word by word or all at once. -/
theorem sum_zeroBits_take
    {words : Array UInt32}
    {count : Nat}
    (within : count ≤ words.size) :
    ((words.toList.take count).map zeroBits).sum =
      (List.range (bitsPerWord * count)).countP
        fun position => !bitAt words position := by
  induction count with
  | zero => rfl
  | succ count inductionHypothesis =>
      have inside : count < words.size := within
      have next :
          zeroBits words[count] =
            ((List.range bitsPerWord).map (bitsPerWord * count + ·)).countP
              fun position => !bitAt words position := by
        rw [zeroBits, List.countP_map]
        refine List.countP_congr ?_
        intro place member
        rw [Function.comp_apply, bitAt_word inside (List.mem_range.1 member)]
      rw [List.take_add_one, Array.getElem?_toList,
        Array.getElem?_eq_getElem inside, Nat.mul_succ, List.range_add,
        List.countP_append, List.map_append, List.sum_append,
        inductionHypothesis (Nat.le_of_lt inside), ← next]
      simp

/-- What is seen of a bitmap over some rows of which exactly some are null. -/
structure Shows (bitmap : NullBitmap) (rows : Nat) (nulls : Finset Nat) : Prop where
  rows_eq : bitmap.rows = rows
  size_words : bitmap.words.size = rows ⌈/⌉ 32
  isValid? : ∀ row < rows, bitmap.isValid? row = .ok (decide (row ∉ nulls))
  padding :
    ∀ position,
      rows ≤ position → position < 32 * bitmap.words.size →
        bitAt bitmap.words position = true
  nullCount : bitmap.nullCount = nulls.card
  zeroBits : (bitmap.words.toList.map NullBitmap.zeroBits).sum = nulls.card
  outside :
    ∀ row,
      rows ≤ row →
        bitmap.isValid? row = .error ⟨row, rows⟩ ∧
          bitmap.clear? row = .error ⟨row, rows⟩

theorem row_lt_bits
    (bitmap : NullBitmap)
    {row : Nat}
    (isRow : row < bitmap.rows) :
    row < bitsPerWord * bitmap.words.size := by
  rw [bitmap.size_words]
  unfold wordsFor bitsPerWord
  omega

namespace Keeps

variable
    {bitmap : NullBitmap}
    {nulls : Finset Nat}

theorem bit
    (keeps : bitmap.Keeps nulls)
    {row : Nat}
    (isRow : row < bitmap.rows) :
    bitmap.bit row = decide (row ∉ nulls) :=
  keeps.bitAt row (bitmap.row_lt_bits isRow)

/-- All that is seen of a bitmap follows from its set of null rows. -/
theorem shows (keeps : bitmap.Keeps nulls) : bitmap.Shows bitmap.rows nulls where
  rows_eq := rfl
  size_words := by
    rw [bitmap.size_words, Nat.ceilDiv_eq_add_pred_div]
    rfl
  isValid? := by
    intro row isRow
    rw [NullBitmap.isValid?, if_pos isRow, keeps.bit isRow]
  padding := by
    intro position beyond inside
    have outside : position ∉ nulls :=
      fun member => absurd (keeps.inside position member) (Nat.not_lt.2 beyond)
    rw [keeps.bitAt position inside]
    exact decide_eq_true outside
  nullCount := by
    rw [nullCount_eq]
    refine countP_range_eq_card keeps.inside ?_
    intro row isRow
    rw [keeps.bit isRow]
    simp
  zeroBits := by
    have counted := sum_zeroBits_take (Nat.le_refl bitmap.words.size)
    rw [← Array.length_toList, List.take_length] at counted
    rw [counted]
    refine countP_range_eq_card ?_ ?_
    · intro row member
      exact bitmap.row_lt_bits (keeps.inside row member)
    · intro position inside
      rw [keeps.bitAt position inside]
      simp
  outside := by
    intro row beyond
    exact ⟨if_neg (Nat.not_lt.2 beyond), if_neg (Nat.not_lt.2 beyond)⟩

theorem eq_iff
    {other : NullBitmap}
    {otherNulls : Finset Nat}
    (keeps : bitmap.Keeps nulls)
    (otherKeeps : other.Keeps otherNulls) :
    bitmap = other ↔ bitmap.rows = other.rows ∧ nulls = otherNulls := by
  constructor
  · rintro rfl
    refine ⟨rfl, ?_⟩
    ext row
    by_cases isRow : row < bitmap.rows
    · have same := (keeps.bit isRow).symm.trans (otherKeeps.bit isRow)
      simpa [not_iff_not] using same
    · exact
        ⟨fun member => (isRow (keeps.inside row member)).elim,
          fun member => (isRow (otherKeeps.inside row member)).elim⟩
  · rintro ⟨rowsEqual, rfl⟩
    refine ext_rows rowsEqual ?_
    intro row isRow
    rw [keeps.bit isRow, otherKeeps.bit (rowsEqual ▸ isRow)]

end Keeps

/-! ## The order of clearing -/

theorem clear?_comm
    {bitmap : NullBitmap}
    {first second : Nat}
    (firstIsRow : first < bitmap.rows)
    (secondIsRow : second < bitmap.rows) :
    (bitmap.clear? first >>= (·.clear? second)) =
      (bitmap.clear? second >>= (·.clear? first)) := by
  have secondLater : second < (bitmap.clear first).rows := by
    rw [rows_clear]
    exact secondIsRow
  have firstLater : first < (bitmap.clear second).rows := by
    rw [rows_clear]
    exact firstIsRow
  rw [clear?_of_lt firstIsRow, clear?_of_lt secondIsRow, bind_ok, bind_ok,
    clear?_of_lt secondLater, clear?_of_lt firstLater]
  refine congrArg Except.ok (ext_rows (by simp only [rows_clear]) ?_)
  intro row isRow
  rw [bit_clear _ secondLater, bit_clear _ firstIsRow, bit_clear _ firstLater,
    bit_clear _ secondIsRow, Bool.and_right_comm]

theorem clear?_clear?
    (bitmap : NullBitmap)
    (row : Nat) :
    (bitmap.clear? row >>= (·.clear? row)) = bitmap.clear? row := by
  by_cases isRow : row < bitmap.rows
  · have later : row < (bitmap.clear row).rows := by
      rw [rows_clear]
      exact isRow
    rw [clear?_of_lt isRow, bind_ok, clear?_of_lt later]
    refine congrArg Except.ok (ext_rows (rows_clear _ row) ?_)
    intro other otherIsRow
    rw [bit_clear _ later, bit_clear _ isRow, Bool.and_assoc, Bool.and_self]
  · rw [clear?, if_neg isRow, bind_error]

/--
Rows of a bitmap can be made null in any sequence, and the bitmap that is left
shows exactly them as null: in every row, in how many are null, and in the bits
of its words.  Bitmaps that are left by two sequences have equal words over
equal rows exactly if the sequences name the same rows; so neither the order of
two rows nor naming one again makes a difference.
-/
theorem cleared_rows_are_null
    (rows : Nat)
    (cleared : List Nat)
    (inside : ∀ row ∈ cleared, row < rows) :
    ∃ bitmap,
      (allValid rows).clearEach? cleared = .ok bitmap ∧
        bitmap.Shows rows cleared.toFinset ∧
          (∀ (otherRows : Nat) (others : List Nat) (other : NullBitmap),
            (∀ row ∈ others, row < otherRows) →
            (allValid otherRows).clearEach? others = .ok other →
              (bitmap.rows = other.rows ∧ bitmap.words = other.words ↔
                rows = otherRows ∧ ∀ row, row ∈ cleared ↔ row ∈ others)) ∧
            (∀ first second,
              first < rows → second < rows →
                (bitmap.clear? first >>= (·.clear? second)) =
                  (bitmap.clear? second >>= (·.clear? first))) ∧
              ∀ row, (bitmap.clear? row >>= (·.clear? row)) = bitmap.clear? row := by
  rcases (keeps_allValid rows).clearEach? inside with
    ⟨bitmap, run, rowsEqual, keeps⟩
  rw [Finset.empty_union] at keeps
  rw [rows_allValid] at rowsEqual
  refine ⟨bitmap, run, rowsEqual ▸ keeps.shows, ?_, ?_, bitmap.clear?_clear?⟩
  · intro otherRows others other othersInside otherRun
    rcases (keeps_allValid otherRows).clearEach? othersInside with
      ⟨same, sameRun, otherRowsEqual, otherKeeps⟩
    cases otherRun.symm.trans sameRun
    rw [Finset.empty_union] at otherKeeps
    rw [rows_allValid] at otherRowsEqual
    have equal := keeps.eq_iff otherKeeps
    rw [rowsEqual, otherRowsEqual] at equal
    rw [← eq_iff_words, equal, Finset.ext_iff]
    simp only [List.mem_toFinset]
  · intro first second firstIsRow secondIsRow
    exact clear?_comm (rowsEqual ▸ firstIsRow) (rowsEqual ▸ secondIsRow)

/-- Two rows on either side of a word boundary, one of them made null twice. -/
theorem cleared_rows_are_null_forty :
    ∃ bitmap other,
      (allValid 40).clearEach? [31, 32, 31] = .ok bitmap ∧
        bitmap.Shows 40 {31, 32} ∧
          (allValid 40).clearEach? [32, 31] = .ok other ∧
            bitmap.words = other.words := by
  rcases cleared_rows_are_null 40 [31, 32, 31] (by decide) with
    ⟨bitmap, run, shows, equal, -, -⟩
  rcases cleared_rows_are_null 40 [32, 31] (by decide) with ⟨other, otherRun, -⟩
  have sameRows : ∀ row, row ∈ [31, 32, 31] ↔ row ∈ [32, 31] := by
    intro row
    simp only [List.mem_cons, List.not_mem_nil, or_false]
    omega
  have same := (equal 40 [32, 31] other (by decide) otherRun).2 ⟨rfl, sameRows⟩
  have nulls : [31, 32, 31].toFinset = {31, 32} := by decide
  exact ⟨bitmap, other, run, nulls ▸ shows, otherRun, same.2⟩

end SyntheticTable.NullBitmap
