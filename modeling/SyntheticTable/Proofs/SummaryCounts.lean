import Mathlib.Algebra.Order.BigOperators.Group.List
import Mathlib.Algebra.Order.Ring.Nat
import SyntheticTable.Proofs.RunLengths
import SyntheticTable.Proofs.Summaries

/-!
# Counts of a summary

A summary counts the null rows in the bitmap, the different records in a set of
hashed bytes and the runs by comparing rows.  The three fit together, because
all rows of a run are null or none is: the null rows are those of the null
runs, and a valid run adds at most one record.
-/

namespace SyntheticTable

/-! ## Bounds on a sum of lengths -/

section Lengths

variable {lengths : List Nat}

/-- Each of positive lengths leaves at least one for every other. -/
theorem length_add_le_sum
    (positive : ∀ length ∈ lengths, 0 < length)
    {length : Nat}
    (member : length ∈ lengths) :
    lengths.length + length ≤ lengths.sum + 1 := by
  induction lengths with
  | nil => cases member
  | cons first others inductionHypothesis =>
      have firstPositive := positive first (List.mem_cons_self ..)
      have othersPositive :
          ∀ other ∈ others, 0 < other := fun other otherMember =>
        positive other (List.mem_cons_of_mem first otherMember)
      rw [List.length_cons, List.sum_cons]
      rcases List.mem_cons.1 member with rfl | later
      · have counted := List.length_le_sum_of_one_le others othersPositive
        omega
      · have counted := inductionHypothesis othersPositive later
        omega

theorem foldl_max_spec
    (someLengths : lengths ≠ []) :
    lengths.foldl max 0 ∈ lengths ∧
      ∀ length ∈ lengths, length ≤ lengths.foldl max 0 := by
  rw [List.foldl_max, Nat.zero_max]
  rcases longest : lengths.max? with _ | length
  · exact (someLengths (List.max?_eq_none_iff.1 longest)).elim
  · rw [List.max?_eq_some_iff] at longest
    exact longest

/-- How many lengths there are and the longest of them bound their sum from both sides. -/
theorem sum_bounds
    (positive : ∀ length ∈ lengths, 0 < length)
    (someLengths : lengths ≠ []) :
    lengths.length + lengths.foldl max 0 - 1 ≤ lengths.sum ∧
      lengths.sum ≤ lengths.length * lengths.foldl max 0 := by
  rcases foldl_max_spec someLengths with ⟨longestMember, longest⟩
  constructor
  · exact Nat.sub_le_of_le_add (length_add_le_sum positive longestMember)
  · exact List.sum_le_card_nsmul lengths _ longest

end Lengths

/-! ## Counting rows by blocks -/

namespace RowBlock

theorem countP_rowsOf
    (test : ColumnRow → Bool)
    (blocks : List RowBlock) :
    (rowsOf blocks).countP test =
      ((blocks.filter fun block => test block.row).map length).sum := by
  induction blocks with
  | nil => rfl
  | cons block blocks inductionHypothesis =>
      rw [rowsOf_cons, List.countP_append, inductionHypothesis, rows,
        List.countP_replicate, List.filter_cons]
      cases test block.row with
      | true => rfl
      | false => exact Nat.zero_add _

/-- The blocks with valid rows hold every record, so there are at least as many. -/
theorem card_validRecords_rowsOf_le (blocks : List RowBlock) :
    (validRecords (rowsOf blocks)).card ≤
      (blocks.filter fun block => block.row.valid).length := by
  have held :
      validRecords (rowsOf blocks) ⊆
        ((blocks.filter fun block => block.row.valid).map
          fun block => block.row.record).toFinset := by
    intro record member
    rcases List.mem_flatMap.1 (mem_validRecords_iff.1 member) with
      ⟨block, blockMember, rowMember⟩
    have sameRow := List.eq_of_mem_replicate rowMember
    rw [List.mem_toFinset, List.mem_map]
    refine ⟨block, List.mem_filter.2 ⟨blockMember, ?_⟩, ?_⟩
    · rw [← sameRow]
    · rw [← sameRow]
  refine (Finset.card_le_card held).trans ?_
  refine (List.toFinset_card_le _).trans ?_
  rw [List.length_map]

end RowBlock

/-! ## Null runs and valid runs -/

theorem countP_valid_add_countP_null (rows : List ColumnRow) :
    rows.countP ColumnRow.valid + rows.countP (fun row => !row.valid) =
      rows.length := by
  rw [List.length_eq_countP_add_countP ColumnRow.valid]
  simp

/-- Rows that stand together: a first row and how many there are. -/
structure RowSpan where
  start : Nat
  length : Nat

/-- The spans of some lengths, one behind the other from a row on. -/
def spansFrom : (start : Nat) → (lengths : List Nat) → List RowSpan
  | _, [] => []
  | start, length :: lengths =>
      ⟨start, length⟩ :: spansFrom (start + length) lengths

namespace Column

/-- The rows of a span are all valid, or all null. -/
def SpanHasValidity (column : Column) (valid : Bool) (span : RowSpan) : Prop :=
  ∀ place, place < span.length → column.isValid? (span.start + place) = .ok valid

instance (column : Column) (valid : Bool) (span : RowSpan) :
    Decidable (column.SpanHasValidity valid span) :=
  inferInstanceAs
    (Decidable
      (∀ place,
        place < span.length → column.isValid? (span.start + place) = .ok valid))

/-- Those of the runs of some lengths whose rows are all valid, or all null. -/
def runsOfValidity
    (column : Column)
    (valid : Bool)
    (lengths : List Nat) :
    List RowSpan :=
  (spansFrom 0 lengths).filter fun span => decide (column.SpanHasValidity valid span)

variable
    {column : Column}
    {rows : List ColumnRow}
    {blocks : List RowBlock}

/-- The rows of a span that a block writes have the validity of its row. -/
theorem Holds.spanHasValidity_iff
    {block : RowBlock}
    {earlier later : List RowBlock}
    (holds : column.Holds (RowBlock.rowsOf (earlier ++ block :: later)))
    (valid : Bool) :
    column.SpanHasValidity valid ⟨(earlier.map RowBlock.length).sum, block.length⟩ ↔
      block.row.valid = valid := by
  have read :
      ∀ place,
        place < block.length →
          column.isValid? ((earlier.map RowBlock.length).sum + place) =
            .ok block.row.valid := fun place inside =>
    holds.isValid? (RowBlock.rowsOf_append_cons_getElem? earlier later inside)
  constructor
  · intro hasValidity
    have first := hasValidity 0 block.length_pos
    rw [read 0 block.length_pos] at first
    exact Except.ok.inj first
  · rintro rfl
    exact read

/-- The lengths of the spans with a validity are those of the blocks with it. -/
theorem Holds.length_spans
    (earlier : List RowBlock)
    (holds : column.Holds (RowBlock.rowsOf (earlier ++ blocks)))
    (valid : Bool) :
    ((spansFrom (earlier.map RowBlock.length).sum
          (blocks.map RowBlock.length)).filter
        fun span => decide (column.SpanHasValidity valid span)).map RowSpan.length =
      (blocks.filter fun block => decide (block.row.valid = valid)).map
        RowBlock.length := by
  induction blocks generalizing earlier with
  | nil => rfl
  | cons block blocks inductionHypothesis =>
      have others := inductionHypothesis (earlier ++ [block]) (by simpa using holds)
      rw [List.map_append, List.sum_append, List.map_singleton,
        List.sum_singleton] at others
      have sameValidity := holds.spanHasValidity_iff valid
      rw [List.map_cons, spansFrom]
      by_cases isSo : block.row.valid = valid
      · rw [List.filter_cons_of_pos (by simpa using sameValidity.2 isSo),
          List.filter_cons_of_pos (by simpa using isSo), List.map_cons,
          List.map_cons, others]
      · rw [List.filter_cons_of_neg (by simpa using mt sameValidity.1 isSo),
          List.filter_cons_of_neg (by simpa using isSo), others]

theorem Holds.length_runsOfValidity
    (holds : column.Holds (RowBlock.rowsOf blocks))
    (valid : Bool) :
    (column.runsOfValidity valid (blocks.map RowBlock.length)).map RowSpan.length =
      (blocks.filter fun block => decide (block.row.valid = valid)).map
        RowBlock.length :=
  Holds.length_spans [] holds valid

theorem Holds.nullCount
    (holds : column.Holds rows) :
    column.nullCount = rows.countP fun row => !row.valid := by
  have validities :
      (List.range column.rowCount).map column.mask.bit =
        rows.map ColumnRow.valid := by
    rw [holds.rowCount]
    apply List.ext_getElem
    · simp
    · intro row inside within
      rw [List.length_map] at within
      simp [holds.bit (List.getElem?_eq_getElem within)]
  have counted :=
    congrArg (List.countP fun valid => !valid) validities
  rw [List.countP_map, List.countP_map] at counted
  exact (NullBitmap.nullCount_eq column.mask).trans counted

theorem Holds.nullCount_eq_sum
    (holds : column.Holds (RowBlock.rowsOf blocks)) :
    column.nullCount =
      ((column.runsOfValidity false (blocks.map RowBlock.length)).map
        RowSpan.length).sum := by
  rw [holds.nullCount, RowBlock.countP_rowsOf, holds.length_runsOfValidity]
  simp

theorem Holds.card_validRecords_le_runs
    (holds : column.Holds (RowBlock.rowsOf blocks)) :
    (validRecords (RowBlock.rowsOf blocks)).card ≤
      (column.runsOfValidity true (blocks.map RowBlock.length)).length := by
  have counted := congrArg List.length (holds.length_runsOfValidity true)
  rw [List.length_map, List.length_map] at counted
  rw [counted]
  simpa using RowBlock.card_validRecords_rowsOf_le blocks

/-- Different records and null rows together are no more than the rows. -/
theorem Holds.card_validRecords_add_nullCount_le
    (holds : column.Holds rows) :
    (validRecords rows).card + column.nullCount ≤ column.rowCount := by
  rw [holds.nullCount, holds.rowCount, ← countP_valid_add_countP_null]
  exact Nat.add_le_add_right (card_validRecords_le_countP rows) _

theorem Holds.card_validRecords_eq_zero_iff
    (holds : column.Holds rows) :
    (validRecords rows).card = 0 ↔ column.nullCount = column.rowCount := by
  rw [holds.nullCount, holds.rowCount, Finset.card_eq_zero,
    Finset.eq_empty_iff_forall_notMem, List.countP_eq_length]
  constructor
  · intro noRecord row member
    rcases row with ⟨record, valid⟩
    cases valid with
    | false => rfl
    | true => exact (noRecord record (mem_validRecords_iff.2 member)).elim
  · intro allNull record member
    cases allNull _ (mem_validRecords_iff.1 member)

/-- How many runs there are and the longest of them bound the rows from both sides. -/
theorem HasRuns.bounds
    {lengths : List Nat}
    (hasRuns : column.HasRuns lengths)
    (someRows : 0 < column.rowCount) :
    lengths.length + lengths.foldl max 0 - 1 ≤ column.rowCount ∧
      column.rowCount ≤ lengths.length * lengths.foldl max 0 := by
  have someLengths : lengths ≠ [] :=
    mt hasRuns.eq_nil_iff.1 (Nat.ne_of_gt someRows)
  rw [← hasRuns.total]
  exact sum_bounds hasRuns.positive someLengths

end Column

/-! ## Counts that fit together -/

/-- The counts of a summary fit each other and the runs of the column. -/
structure ColumnSummary.Fits
    (summary : ColumnSummary)
    (column : Column)
    (lengths : List Nat) : Prop where
  rowCount : summary.rowCount = column.rowCount
  nullCount :
    summary.nullCount =
      ((column.runsOfValidity false lengths).map RowSpan.length).sum
  distinct_le_runs :
    summary.distinctCount ≤ (column.runsOfValidity true lengths).length
  distinct_add_null_le :
    summary.distinctCount + summary.nullCount ≤ summary.rowCount
  distinct_eq_zero_iff :
    summary.distinctCount = 0 ↔ summary.nullCount = summary.rowCount
  runs_add_longest_le :
    0 < summary.rowCount →
      summary.runCount + summary.longestRun - 1 ≤ summary.rowCount
  rowCount_le_mul :
    0 < summary.rowCount →
      summary.rowCount ≤ summary.runCount * summary.longestRun

/--
A validated column has a summary, and its counts fit together: the null rows
are those of the null runs, every valid run adds one record at most, there is
no record exactly where all rows are null, and the number of runs and the
longest of them bound the number of rows from both sides.
-/
theorem counts_of_summary_fit
    {column : Column}
    (valid : column.validate = .ok ()) :
    ∃ summary lengths,
      ColumnSummary.of column = .ok summary ∧
        column.runLengths? = .ok lengths ∧
          column.HasRuns lengths ∧ summary.Fits column lengths := by
  rcases Column.exists_holds_of_validate valid with ⟨rows, holds, -⟩
  rcases RowBlock.exists_separate rows with ⟨blocks, separate, rfl⟩
  have measured := holds.runLengths?
  have observed := holds.summary_eq
  have hasRuns := holds.hasRuns separate
  rw [separate.length_maximalRuns] at measured observed
  refine ⟨_, _, observed, measured, hasRuns, ?_⟩
  exact
    { rowCount := rfl
      nullCount := holds.nullCount_eq_sum
      distinct_le_runs := holds.card_validRecords_le_runs
      distinct_add_null_le := holds.card_validRecords_add_nullCount_le
      distinct_eq_zero_iff := holds.card_validRecords_eq_zero_iff
      runs_add_longest_le := fun someRows => (hasRuns.bounds someRows).1
      rowCount_le_mul := fun someRows => (hasRuns.bounds someRows).2 }

/--
Of six numbers the fourth is null, so one row is null and the three valid runs
hold at least one record and at most three.
-/
theorem counts_of_summary_fit_six :
    let column : Column :=
      ⟨.fixed .int32 #[1, 1, 2, 9, 2, 2], (NullBitmap.allValid 6).clear 3⟩
    column.validate = .ok () ∧
      ∃ summary,
        ColumnSummary.of column = .ok summary ∧
          column.runLengths? = .ok [2, 1, 1, 2] ∧
            summary.Fits column [2, 1, 1, 2] ∧
              summary.nullCount = 1 ∧
                0 < summary.distinctCount ∧ summary.distinctCount ≤ 3 := by
  intro column
  have valid : column.validate = .ok () := Column.validate_of_counted rfl
  have measured : column.runLengths? = .ok [2, 1, 1, 2] := by decide +kernel
  rcases counts_of_summary_fit valid with
    ⟨summary, lengths, observed, measuredLengths, -, fits⟩
  cases measured.symm.trans measuredLengths
  have nullCount : summary.nullCount = 1 :=
    fits.nullCount.trans (by decide +kernel)
  have validRuns : (column.runsOfValidity true [2, 1, 1, 2]).length = 3 := by
    decide +kernel
  have rowCount : summary.rowCount = 6 := fits.rowCount.trans rfl
  refine ⟨valid, summary, observed, measured, fits, nullCount, ?_, ?_⟩
  · apply Nat.pos_of_ne_zero
    intro noRecord
    have allNull := fits.distinct_eq_zero_iff.1 noRecord
    omega
  · rw [← validRuns]
    exact fits.distinct_le_runs

end SyntheticTable
