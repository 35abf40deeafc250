import Mathlib.Algebra.BigOperators.Group.List.Basic
import Mathlib.Algebra.Ring.Nat
import Mathlib.Data.List.SplitBy
import SyntheticTable.Proofs.HeldRows
import SyntheticTable.Summary

/-!
# Maximal runs

Rows fall into maximal runs: neighbours in a run are equal, and the last row of
a run differs from the first row of the next.  The run lengths of a column that
holds rows are those of its maximal runs.

Where rows were written block by block, each block repeating one row, a
maximal run is made of whole blocks.  So the blocks are merged, and never cut.
-/

namespace SyntheticTable

/-- The maximal runs of equal rows, in row order. -/
def maximalRuns (rows : List ColumnRow) : List (List ColumnRow) :=
  rows.splitBy fun left right => decide (left = right)

/-- A repeated row before a different one is a maximal run. -/
theorem maximalRuns_replicate_append
    {count : Nat}
    {row : ColumnRow}
    {others : List ColumnRow}
    (positive : 0 < count)
    (different : others.head? ≠ some row) :
    maximalRuns (List.replicate count row ++ others) =
      List.replicate count row :: maximalRuns others := by
  have someRows : List.replicate count row ≠ [] := by
    rw [Ne, List.replicate_eq_nil_iff]
    exact positive.ne'
  have oneRun : maximalRuns (List.replicate count row) = [List.replicate count row] := by
    apply List.splitBy_of_isChain someRows
    apply List.isChain_replicate_of_rel
    exact decide_eq_true rfl
  rw [← List.singleton_append, ← oneRun]
  apply List.splitBy_append
  intro last lastFound next nextFound
  rw [List.eq_of_mem_replicate (List.mem_of_mem_getLast? lastFound)]
  apply decide_eq_false
  rintro rfl
  exact different nextFound

/-! ## Runs of a column -/

namespace Column.Holds

variable
    {column : Column}
    {rows : List ColumnRow}

theorem rowsEqual?
    {left right : Nat}
    {leftRow rightRow : ColumnRow}
    (holds : column.Holds rows)
    (leftFound : rows[left]? = some leftRow)
    (rightFound : rows[right]? = some rightRow) :
    column.rowsEqual? left right = .ok (decide (leftRow = rightRow)) := by
  rcases leftRow with ⟨leftRecord, leftValid⟩
  rcases rightRow with ⟨rightRecord, rightValid⟩
  rw [Column.rowsEqual?, holds.isValid? leftFound, holds.isValid? rightFound]
  by_cases sameValid : leftValid = rightValid
  · subst sameValid
    rw [holds.record? leftFound, holds.record? rightFound]
    by_cases sameRecord : leftRecord = rightRecord
    · simp [sameRecord]
    · simp [sameRecord]
  · simp [sameValid]

/--
What is measured from a row on, if all rows since the start of the current run
are equal: the maximal runs from that start on.
-/
theorem runLengthsFrom
    (holds : column.Holds rows)
    {start row : Nat}
    {first : ColumnRow}
    (lengths : Array Nat)
    (started : start < row)
    (firstFound : rows[start]? = some first)
    (sameSince :
      rows.drop start = List.replicate (row - start) first ++ rows.drop row) :
    column.runLengthsFrom start row lengths =
      .ok (lengths ++ ((maximalRuns (rows.drop start)).map List.length).toArray) := by
  fun_induction Column.runLengthsFrom column start row lengths
      generalizing first with
  | case1 start row lengths inside fault unreadable =>
      rcases holds.exists_row inside with ⟨content, found, -⟩
      cases unreadable.symm.trans (holds.rowsEqual? firstFound found)
  | case2 start row lengths inside equal inductionHypothesis =>
      rcases holds.exists_row inside with ⟨content, found, -⟩
      have compared := equal.symm.trans (holds.rowsEqual? firstFound found)
      have same : first = content := by simpa using compared
      rcases List.getElem?_eq_some_iff.1 found with ⟨within, rowEqual⟩
      apply inductionHypothesis (Nat.lt_succ_of_lt started) firstFound
      rw [sameSince, List.drop_eq_getElem_cons within, rowEqual, ← same,
        List.append_cons, ← List.replicate_succ',
        Nat.succ_sub (Nat.le_of_lt started)]
  | case3 start row lengths inside different inductionHypothesis =>
      rcases holds.exists_row inside with ⟨content, found, -⟩
      have compared := different.symm.trans (holds.rowsEqual? firstFound found)
      have other : first ≠ content := by simpa using compared
      rcases List.getElem?_eq_some_iff.1 found with ⟨within, rowEqual⟩
      have runEnds : (rows.drop row).head? ≠ some first := by
        rw [List.head?_drop, found]
        intro same
        exact other (Option.some.inj same).symm
      have opened :
          rows.drop row =
            List.replicate (row + 1 - row) content ++ rows.drop (row + 1) := by
        rw [Nat.add_sub_cancel_left, List.drop_eq_getElem_cons within, rowEqual]
        rfl
      rw [inductionHypothesis (Nat.lt_succ_self row) found opened, sameSince,
        maximalRuns_replicate_append (Nat.sub_pos_of_lt started) runEnds]
      simp
  | case4 start row lengths outside =>
      have noMore : rows.drop row = [] := by
        apply List.drop_eq_nil_of_le
        rw [← holds.rowCount]
        exact Nat.le_of_not_lt outside
      rw [sameSince, noMore,
        maximalRuns_replicate_append (Nat.sub_pos_of_lt started) (by simp)]
      simp [maximalRuns]

/-- The run lengths of a column are those of the maximal runs of its rows. -/
theorem runLengths?
    (holds : column.Holds rows) :
    column.runLengths? = .ok ((maximalRuns rows).map List.length) := by
  rw [Column.runLengths?]
  split
  · next noRows =>
      have nothing : rows = [] :=
        List.eq_nil_of_length_eq_zero (holds.rowCount.symm.trans noRows)
      rw [nothing]
      rfl
  · next someRows =>
      rcases holds.exists_row (Nat.pos_of_ne_zero someRows) with
        ⟨first, firstFound, -⟩
      rcases List.getElem?_eq_some_iff.1 firstFound with ⟨within, firstEqual⟩
      have opened :
          rows.drop 0 = List.replicate (1 - 0) first ++ rows.drop 1 := by
        rw [List.drop_eq_getElem_cons within, firstEqual]
        rfl
      rw [holds.runLengthsFrom #[] Nat.one_pos firstFound opened]
      simp

end Column.Holds

/-! ## Blocks of equal rows -/

/-- A row and how often it stands in sequence: at least once. -/
structure RowBlock where
  row : ColumnRow
  length : Nat
  length_pos : 0 < length

namespace RowBlock

/-- The rows of a block. -/
def rows (block : RowBlock) : List ColumnRow :=
  List.replicate block.length block.row

/-- The rows of blocks, one block after the other. -/
def rowsOf (blocks : List RowBlock) : List ColumnRow :=
  blocks.flatMap rows

/-- The blocks in groups of neighbours with the same row. -/
def groups (blocks : List RowBlock) : List (List RowBlock) :=
  blocks.splitBy fun left right => decide (left.row = right.row)

theorem rows_ne_nil (block : RowBlock) : block.rows ≠ [] := by
  rw [rows, Ne, List.replicate_eq_nil_iff]
  exact block.length_pos.ne'

@[simp]
theorem rowsOf_nil : rowsOf [] = [] :=
  rfl

@[simp]
theorem rowsOf_cons (block : RowBlock) (blocks : List RowBlock) :
    rowsOf (block :: blocks) = block.rows ++ rowsOf blocks :=
  List.flatMap_cons

@[simp]
theorem rowsOf_append (left right : List RowBlock) :
    rowsOf (left ++ right) = rowsOf left ++ rowsOf right :=
  List.flatMap_append

theorem rowsOf_flatten (parts : List (List RowBlock)) :
    rowsOf parts.flatten = (parts.map rowsOf).flatten := by
  induction parts with
  | nil => rfl
  | cons part parts inductionHypothesis =>
      rw [List.flatten_cons, rowsOf_append, inductionHypothesis,
        List.map_cons, List.flatten_cons]

@[simp]
theorem length_rowsOf (blocks : List RowBlock) :
    (rowsOf blocks).length = (blocks.map length).sum := by
  induction blocks with
  | nil => rfl
  | cons block blocks inductionHypothesis =>
      rw [rowsOf_cons, List.length_append, inductionHypothesis, rows,
        List.length_replicate, List.map_cons, List.sum_cons]

theorem rowsOf_ne_nil
    {blocks : List RowBlock}
    (someBlocks : blocks ≠ []) :
    rowsOf blocks ≠ [] := by
  cases blocks with
  | nil => exact (someBlocks rfl).elim
  | cons block blocks =>
      rw [rowsOf_cons]
      exact List.append_ne_nil_of_left_ne_nil block.rows_ne_nil _

theorem head_rowsOf
    {blocks : List RowBlock}
    (someBlocks : blocks ≠ []) :
    (rowsOf blocks).head (rowsOf_ne_nil someBlocks) =
      (blocks.head someBlocks).row := by
  cases blocks with
  | nil => exact (someBlocks rfl).elim
  | cons block blocks =>
      exact
        (List.head_append_left block.rows_ne_nil).trans
          (List.head_replicate block.rows_ne_nil)

theorem getLast_rowsOf
    {blocks : List RowBlock}
    (someBlocks : blocks ≠ []) :
    (rowsOf blocks).getLast (rowsOf_ne_nil someBlocks) =
      (blocks.getLast someBlocks).row := by
  induction blocks using List.reverseRecOn with
  | nil => exact (someBlocks rfl).elim
  | append_singleton blocks block =>
      have lastRows : rowsOf (blocks ++ [block]) = rowsOf blocks ++ block.rows := by
        simp
      simp only [lastRows, List.getLast_append_right block.rows_ne_nil,
        List.getLast_append_singleton]
      exact List.getLast_replicate block.rows_ne_nil

/-- The rows of a block are found behind those of the blocks before it. -/
theorem rowsOf_append_cons_getElem?
    {block : RowBlock}
    {place : Nat}
    (earlier later : List RowBlock)
    (inside : place < block.length) :
    (rowsOf (earlier ++ block :: later))[(earlier.map length).sum + place]? =
      some block.row := by
  have within : place < block.rows.length := by
    rw [rows, List.length_replicate]
    exact inside
  rw [rowsOf_append, rowsOf_cons, ← length_rowsOf,
    List.getElem?_append_right (Nat.le_add_right _ _), Nat.add_sub_cancel_left,
    List.getElem?_append_left within, rows, List.getElem?_replicate_of_lt inside]

/-- Where the lengths of blocks are known, so are the places of equal rows. -/
theorem rowsOf_getElem?
    {blocks : List RowBlock}
    {before after : List Nat}
    {count : Nat}
    (lengths : blocks.map length = before ++ count :: after) :
    ∃ row, ∀ place, place < count → (rowsOf blocks)[before.sum + place]? = some row := by
  rcases List.map_eq_append_iff.1 lengths with
    ⟨earlier, others, rfl, rfl, othersEqual⟩
  rcases List.map_eq_cons_iff.1 othersEqual with ⟨block, later, rfl, rfl, -⟩
  refine ⟨block.row, ?_⟩
  intro place inside
  exact rowsOf_append_cons_getElem? earlier later inside

/-- Blocks of a group all have the same row, so the rows of the group are equal. -/
theorem rowsOf_isChain_of_mem_groups
    {blocks group : List RowBlock}
    (member : group ∈ groups blocks) :
    (rowsOf group).IsChain fun left right => decide (left = right) = true := by
  have neighbours := List.isChain_of_mem_splitBy member
  simp only [decide_eq_true_eq] at neighbours ⊢
  clear member
  induction group with
  | nil => exact .nil
  | cons block group inductionHypothesis =>
      rw [rowsOf_cons, List.isChain_append]
      refine
        ⟨List.isChain_replicate_of_rel _ rfl,
          inductionHypothesis neighbours.tail, ?_⟩
      intro last lastFound next nextFound
      have lastRow : last = block.row :=
        List.eq_of_mem_replicate (List.mem_of_mem_getLast? lastFound)
      cases group with
      | nil => cases nextFound
      | cons other group =>
          have nextRow : next = other.row := by
            rw [← List.head_of_mem_head? nextFound]
            exact head_rowsOf (List.cons_ne_nil other group)
          rw [lastRow, nextRow]
          exact neighbours.rel

/-- The maximal runs of blocks are the groups of neighbours with the same row. -/
theorem maximalRuns_rowsOf (blocks : List RowBlock) :
    maximalRuns (rowsOf blocks) = (groups blocks).map rowsOf := by
  apply List.splitBy_eq_iff.2
  refine ⟨?_, ?_, ?_, ?_⟩
  · rw [← rowsOf_flatten, groups, List.flatten_splitBy]
  · intro member
    rcases List.mem_map.1 member with ⟨group, groupMember, empty⟩
    exact rowsOf_ne_nil (List.ne_nil_of_mem_splitBy groupMember) empty
  · intro run member
    rcases List.mem_map.1 member with ⟨group, groupMember, rfl⟩
    exact rowsOf_isChain_of_mem_groups groupMember
  · rw [List.isChain_map]
    apply (List.isChain_getLast_head_splitBy _ blocks).imp
    rintro left right ⟨someLeft, someRight, different⟩
    refine ⟨rowsOf_ne_nil someLeft, rowsOf_ne_nil someRight, ?_⟩
    rw [getLast_rowsOf someLeft, head_rowsOf someRight]
    exact different

end RowBlock

/-! ## Merged lengths -/

/--
Lengths are merged into others: neighbours are put together, none is cut and
none is left out, and each of the others is the sum of what was put together.
-/
def MergesInto (lengths merged : List Nat) : Prop :=
  ∃ parts : List (List Nat),
    [] ∉ parts ∧ parts.flatten = lengths ∧ parts.map List.sum = merged

namespace MergesInto

variable {lengths merged : List Nat}

theorem length_le
    (merges : MergesInto lengths merged) :
    merged.length ≤ lengths.length := by
  rcases merges with ⟨parts, inhabited, rfl, rfl⟩
  rw [List.length_map]
  induction parts with
  | nil => exact Nat.le_refl 0
  | cons part parts inductionHypothesis =>
      rw [List.mem_cons, not_or] at inhabited
      have some : 0 < part.length := List.length_pos_iff.2 (Ne.symm inhabited.1)
      have others := inductionHypothesis inhabited.2
      rw [List.flatten_cons, List.length_append, List.length_cons]
      omega

/-- Where merged lengths meet, lengths have met before. -/
theorem exists_boundary
    (merges : MergesInto lengths merged)
    (place : Nat) :
    ∃ before,
      before ≤ lengths.length ∧
        (merged.take place).sum = (lengths.take before).sum := by
  rcases merges with ⟨parts, -, rfl, rfl⟩
  have split :
      parts.flatten =
        (parts.take place).flatten ++ (parts.drop place).flatten := by
    rw [← List.flatten_append, List.take_append_drop]
  refine ⟨(parts.take place).flatten.length, ?_, ?_⟩
  · rw [split, List.length_append]
    exact Nat.le_add_right _ _
  · rw [split, List.take_left', List.sum_flatten, List.map_take]
    rfl

end MergesInto

/-- The lengths of blocks are merged into those of the maximal runs. -/
theorem RowBlock.mergesInto_maximalRuns (blocks : List RowBlock) :
    MergesInto (blocks.map length)
      ((maximalRuns (rowsOf blocks)).map List.length) := by
  refine ⟨(groups blocks).map (·.map length), ?_, ?_, ?_⟩
  · intro member
    rcases List.mem_map.1 member with ⟨group, groupMember, empty⟩
    exact List.ne_nil_of_mem_splitBy groupMember (List.map_eq_nil_iff.1 empty)
  · rw [← List.map_flatten, groups, List.flatten_splitBy]
  · rw [maximalRuns_rowsOf, List.map_map, List.map_map]
    apply List.map_congr_left
    intro group member
    exact (length_rowsOf group).symm

end SyntheticTable
