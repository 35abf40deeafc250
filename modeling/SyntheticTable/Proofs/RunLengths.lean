import SyntheticTable.Proofs.ValidatedColumn

/-!
# Run lengths of validated columns

The maximal runs of a column can be told by comparing neighbours: the rows of
a run are equal, and where one run ends and the next begins the rows differ.
Lengths with these two properties are unique, and they are what is measured by
comparing each row with the first row of its run.

Both are seen on blocks of equal rows.  Blocks whose neighbours differ in their
row cannot be merged, so they are the maximal runs of the rows they write.
-/

namespace SyntheticTable

/-! ## Blocks that cannot be merged -/

namespace RowBlock

variable
    {block : RowBlock}
    {blocks : List RowBlock}

/-- Neighbouring blocks differ in their row. -/
def Separate (blocks : List RowBlock) : Prop :=
  blocks.IsChain fun left right => left.row ≠ right.row

/-- The block with its row once more. -/
def longer (block : RowBlock) : RowBlock where
  row := block.row
  length := block.length + 1
  length_pos := Nat.succ_pos block.length

/-- The block of a single row. -/
def single (row : ColumnRow) : RowBlock where
  row := row
  length := 1
  length_pos := Nat.one_pos

@[simp]
theorem rows_longer (block : RowBlock) :
    block.longer.rows = block.row :: block.rows :=
  rfl

theorem head?_rowsOf (blocks : List RowBlock) :
    (rowsOf blocks).head? = blocks.head?.map row := by
  cases blocks with
  | nil => rfl
  | cons block blocks =>
      rw [List.head?_eq_some_head (rowsOf_ne_nil (List.cons_ne_nil block blocks)),
        head_rowsOf (List.cons_ne_nil block blocks)]
      rfl

theorem Separate.longer
    (separate : Separate (block :: blocks)) :
    Separate (block.longer :: blocks) :=
  List.isChain_cons.2 (List.isChain_cons.1 separate)

theorem exists_separate (rows : List ColumnRow) :
    ∃ blocks, Separate blocks ∧ rowsOf blocks = rows := by
  induction rows with
  | nil => exact ⟨[], .nil, rfl⟩
  | cons row rows inductionHypothesis =>
      rcases inductionHypothesis with ⟨blocks, separate, rfl⟩
      by_cases same : blocks.head?.map RowBlock.row = some row
      · -- The row belongs to the first block.
        cases blocks with
        | nil => cases same
        | cons block blocks =>
            cases same
            exact ⟨block.longer :: blocks, separate.longer, rfl⟩
      · -- The row differs from the next, so a block begins with it.
        refine ⟨single row :: blocks, ?_, rfl⟩
        apply List.isChain_cons.2
        refine ⟨?_, separate⟩
        intro next nextFound equal
        apply same
        rw [Option.mem_def.1 nextFound]
        exact congrArg some equal.symm

theorem Separate.maximalRuns_rowsOf
    (separate : Separate blocks) :
    maximalRuns (rowsOf blocks) = blocks.map rows := by
  induction blocks with
  | nil => rfl
  | cons block blocks inductionHypothesis =>
      rcases List.isChain_cons.1 separate with ⟨different, others⟩
      have runEnds : (rowsOf blocks).head? ≠ some block.row := by
        rw [head?_rowsOf]
        intro same
        rcases Option.map_eq_some_iff.1 same with ⟨next, nextFound, equal⟩
        exact different next nextFound equal.symm
      rw [rowsOf_cons, rows, maximalRuns_replicate_append block.length_pos runEnds,
        inductionHypothesis others]
      rfl

theorem Separate.length_maximalRuns
    (separate : Separate blocks) :
    (maximalRuns (rowsOf blocks)).map List.length = blocks.map length := by
  rw [separate.maximalRuns_rowsOf, List.map_map]
  apply List.map_congr_left
  intro block member
  exact List.length_replicate

end RowBlock

/-! ## Counting runs by their first rows -/

/-- A row that repeats the first one belongs to its run. -/
theorem length_maximalRuns_repeat
    (row : ColumnRow)
    (rows : List ColumnRow) :
    (maximalRuns (row :: row :: rows)).length =
      (maximalRuns (row :: rows)).length := by
  rcases RowBlock.exists_separate (row :: rows) with ⟨blocks, separate, written⟩
  cases blocks with
  | nil => cases written
  | cons block blocks =>
      have first := RowBlock.head?_rowsOf (block :: blocks)
      rw [written] at first
      have sameRow : block.row = row := (Option.some.inj first).symm
      have longerWritten :
          RowBlock.rowsOf (block.longer :: blocks) = row :: row :: rows := by
        rw [← written, RowBlock.rowsOf_cons, RowBlock.rows_longer, sameRow,
          List.cons_append, RowBlock.rowsOf_cons]
      rw [← longerWritten, ← written, separate.longer.maximalRuns_rowsOf,
        separate.maximalRuns_rowsOf, List.length_map, List.length_map]
      rfl

/-- There is one run more than there are rows that differ from the row before them. -/
theorem length_maximalRuns_cons
    (first : ColumnRow)
    (others : List ColumnRow) :
    (maximalRuns (first :: others)).length =
      1 + (List.range others.length).countP fun place =>
        decide ((first :: others)[place]? ≠ (first :: others)[place + 1]?) := by
  induction others generalizing first with
  | nil => rfl
  | cons second others inductionHypothesis =>
      have later := inductionHypothesis second
      rw [List.length_cons, List.range_succ_eq_map, List.countP_cons,
        List.countP_map]
      by_cases same : first = second
      · subst same
        rw [length_maximalRuns_repeat, later]
        simp [Function.comp_def]
      · have ends : (second :: others).head? ≠ some first := by
          intro equal
          exact same (Option.some.inj equal).symm
        have alone := maximalRuns_replicate_append Nat.one_pos ends
        rw [List.replicate_one, List.singleton_append] at alone
        rw [alone, List.length_cons, later]
        simp [Function.comp_def, same]
        omega

/-! ## Runs of a column -/

namespace Column

/--
Lengths are those of the maximal runs: each run takes some row and all of them
together take every row, the rows of a run are equal, and the last row of a run
differs from the first row of the next.
-/
structure HasRuns (column : Column) (lengths : List Nat) : Prop where
  positive : ∀ length ∈ lengths, 0 < length
  total : lengths.sum = column.rowCount
  equal :
    ∀ {before after : List Nat} {length left right : Nat},
      lengths = before ++ length :: after →
        left < length →
          right < length →
            column.rowsEqual? (before.sum + left) (before.sum + right) = .ok true
  different :
    ∀ {before after : List Nat} {first second : Nat},
      lengths = before ++ first :: second :: after →
        column.rowsEqual? (before.sum + first - 1) (before.sum + first) = .ok false

/-- How many rows differ from the row before them. -/
def changeCount (column : Column) : Nat :=
  (List.range column.rowCount).countP fun row =>
    decide (1 ≤ row ∧ column.rowsEqual? (row - 1) row = .ok false)

variable
    {column : Column}
    {rows : List ColumnRow}
    {lengths : List Nat}

/-- Separate blocks are the runs of a column that holds their rows. -/
theorem Holds.hasRuns
    {blocks : List RowBlock}
    (holds : column.Holds (RowBlock.rowsOf blocks))
    (separate : RowBlock.Separate blocks) :
    column.HasRuns (blocks.map RowBlock.length) where
  positive := by
    intro length member
    rcases List.mem_map.1 member with ⟨block, -, rfl⟩
    exact block.length_pos
  total := by
    rw [holds.rowCount, RowBlock.length_rowsOf]
  equal := by
    intro before after length left right split leftInside rightInside
    rcases RowBlock.rowsOf_getElem? split with ⟨row, found⟩
    rw [holds.rowsEqual? (found left leftInside) (found right rightInside)]
    exact congrArg Except.ok (decide_eq_true rfl)
  different := by
    intro before after first second split
    rcases List.map_eq_append_iff.1 split with
      ⟨earlier, others, rfl, rfl, othersEqual⟩
    rcases List.map_eq_cons_iff.1 othersEqual with
      ⟨left, later, rfl, rfl, laterEqual⟩
    rcases List.map_eq_cons_iff.1 laterEqual with ⟨right, rest, rfl, rfl, -⟩
    have distinct : left.row ≠ right.row :=
      (List.isChain_cons_cons.1 (List.isChain_append.1 separate).2.1).1
    have leftPositive := left.length_pos
    have leftFound :=
      RowBlock.rowsOf_append_cons_getElem? earlier (right :: rest)
        (show left.length - 1 < left.length by omega)
    have rightFound :=
      RowBlock.rowsOf_append_cons_getElem? (earlier ++ [left]) rest
        right.length_pos
    rw [List.append_assoc, List.singleton_append, List.map_append,
      List.sum_append] at rightFound
    rw [← Nat.add_sub_assoc leftPositive] at leftFound
    have compared := holds.rowsEqual? leftFound rightFound
    rw [decide_eq_false distinct] at compared
    exact compared

/-- The maximal runs of its rows are the runs of a column. -/
theorem Holds.hasRuns_maximalRuns
    (holds : column.Holds rows) :
    column.HasRuns ((maximalRuns rows).map List.length) := by
  rcases RowBlock.exists_separate rows with ⟨blocks, separate, rfl⟩
  rw [separate.length_maximalRuns]
  exact holds.hasRuns separate

namespace HasRuns

/-- The rows of a run are the first row of the run, repeated. -/
theorem getElem?_eq
    {before after : List Nat}
    {length place : Nat}
    (hasRuns : column.HasRuns lengths)
    (holds : column.Holds rows)
    (split : lengths = before ++ length :: after)
    (inside : place < length) :
    rows[before.sum + place]? = rows[before.sum]? := by
  have total := hasRuns.total
  rw [split, List.sum_append, List.sum_cons] at total
  have within : before.sum + place < column.rowCount := by omega
  have startWithin : before.sum < column.rowCount := by omega
  rcases holds.exists_row within with ⟨row, found, -⟩
  rcases holds.exists_row startWithin with ⟨first, firstFound, -⟩
  have compared := hasRuns.equal split (Nat.zero_lt_of_lt inside) inside
  rw [Nat.add_zero, holds.rowsEqual? firstFound found] at compared
  rw [found, firstFound, of_decide_eq_true (Except.ok.inj compared)]

/-- The next run begins with another row. -/
theorem getElem?_ne
    {before after : List Nat}
    {first second : Nat}
    (hasRuns : column.HasRuns lengths)
    (holds : column.Holds rows)
    (split : lengths = before ++ first :: second :: after) :
    rows[before.sum + first]? ≠ rows[before.sum]? := by
  have firstPositive : 0 < first :=
    hasRuns.positive first (by rw [split]; simp)
  have secondPositive : 0 < second :=
    hasRuns.positive second (by rw [split]; simp)
  have total := hasRuns.total
  rw [split, List.sum_append, List.sum_cons, List.sum_cons] at total
  have lastWithin : before.sum + (first - 1) < column.rowCount := by omega
  have nextWithin : before.sum + first < column.rowCount := by omega
  rcases holds.exists_row lastWithin with ⟨last, lastFound, -⟩
  rcases holds.exists_row nextWithin with ⟨next, nextFound, -⟩
  have compared := hasRuns.different split
  rw [Nat.add_sub_assoc firstPositive,
    holds.rowsEqual? lastFound nextFound] at compared
  have distinct : last ≠ next := of_decide_eq_false (Except.ok.inj compared)
  rw [← hasRuns.getElem?_eq holds split (Nat.sub_lt firstPositive Nat.one_pos),
    lastFound, nextFound]
  intro same
  exact distinct (Option.some.inj same).symm

/-- The rows from the start of a run on are those of separate blocks. -/
theorem exists_blocks_of_append
    {before after : List Nat}
    (hasRuns : column.HasRuns lengths)
    (holds : column.Holds rows)
    (split : lengths = before ++ after) :
    ∃ blocks,
      RowBlock.Separate blocks ∧
        RowBlock.rowsOf blocks = rows.drop before.sum ∧
          blocks.map RowBlock.length = after := by
  induction after generalizing before with
  | nil =>
      refine ⟨[], .nil, ?_, rfl⟩
      have total := hasRuns.total
      rw [split, List.append_nil, holds.rowCount] at total
      rw [total, List.drop_length]
      rfl
  | cons count after inductionHypothesis =>
      have positive : 0 < count :=
        hasRuns.positive count (by rw [split]; simp)
      have total := hasRuns.total
      rw [split, List.sum_append, List.sum_cons, holds.rowCount] at total
      have firstWithin : before.sum < rows.length := by omega
      have firstFound := List.getElem?_eq_getElem firstWithin
      have later : lengths = (before ++ [count]) ++ after := by
        rw [split, List.append_assoc, List.singleton_append]
      rcases inductionHypothesis later with
        ⟨blocks, separate, written, lengthsEqual⟩
      rw [List.sum_append, List.sum_singleton] at written
      refine ⟨⟨rows[before.sum], count, positive⟩ :: blocks, ?_, ?_, ?_⟩
      · -- The next run begins with another row.
        apply List.isChain_cons.2
        refine ⟨?_, separate⟩
        intro next nextFound equal
        rcases List.head?_eq_some_iff.1 nextFound with ⟨more, rfl⟩
        rw [← lengthsEqual] at split
        apply hasRuns.getElem?_ne holds split
        rw [firstFound, ← List.head?_drop, ← written, RowBlock.head?_rowsOf]
        exact congrArg some equal.symm
      · have run :
            (rows.drop before.sum).take count =
              List.replicate count rows[before.sum] := by
          apply List.ext_getElem?
          intro place
          by_cases inside : place < count
          · rw [List.getElem?_take_of_lt inside, List.getElem?_drop,
              hasRuns.getElem?_eq holds split inside, firstFound,
              List.getElem?_replicate_of_lt inside]
          · simp [inside]
        rw [RowBlock.rowsOf_cons, written, RowBlock.rows, ← run,
          ← List.drop_drop, List.take_append_drop]
      · rw [List.map_cons, lengthsEqual]

/-- Only the lengths of the maximal runs are those of runs. -/
theorem eq_maximalRuns
    (hasRuns : column.HasRuns lengths)
    (holds : column.Holds rows) :
    lengths = (maximalRuns rows).map List.length := by
  rcases hasRuns.exists_blocks_of_append holds (List.nil_append lengths).symm with
    ⟨blocks, separate, written, rfl⟩
  rw [List.sum_nil, List.drop_zero] at written
  rw [← written, separate.length_maximalRuns]

theorem eq_nil_iff
    (hasRuns : column.HasRuns lengths) :
    lengths = [] ↔ column.rowCount = 0 := by
  rw [← hasRuns.total]
  constructor
  · rintro rfl
    rfl
  · intro nothing
    cases lengths with
    | nil => rfl
    | cons first others =>
        have positive := hasRuns.positive first (List.mem_cons_self ..)
        rw [List.sum_cons] at nothing
        omega

end HasRuns

/-- The rows that are found to differ from the one before are those that do. -/
theorem Holds.changeCount
    (holds : column.Holds rows) :
    column.changeCount =
      (List.range (rows.length - 1)).countP fun place =>
        decide (rows[place]? ≠ rows[place + 1]?) := by
  unfold Column.changeCount
  rw [holds.rowCount]
  cases rows with
  | nil => rfl
  | cons first others =>
      rw [List.length_cons, List.range_succ_eq_map, List.countP_cons,
        List.countP_map, Nat.add_sub_cancel]
      rw [if_neg (by simp), Nat.add_zero]
      apply List.countP_congr
      intro place member
      have inside := List.mem_range.1 member
      have within : place + 1 < column.rowCount := by
        rw [holds.rowCount, List.length_cons]
        omega
      rcases holds.exists_row (Nat.lt_of_succ_lt within) with ⟨row, found, -⟩
      rcases holds.exists_row within with ⟨next, nextFound, -⟩
      have compared := holds.rowsEqual? found nextFound
      simp [compared, found, nextFound]

end Column

/--
A validated column is measured, and what is reported are the lengths of its
maximal runs and no others.  There is none where there are no rows, and else
there is one more than there are rows that differ from the row before them.
-/
theorem validated_columns_have_runs
    {column : Column}
    (valid : column.validate = .ok ()) :
    ∃ lengths,
      column.runLengths? = .ok lengths ∧
        column.HasRuns lengths ∧
          (∀ others, column.HasRuns others → others = lengths) ∧
            (lengths = [] ↔ column.rowCount = 0) ∧
              (0 < column.rowCount →
                lengths.length = 1 + column.changeCount) := by
  rcases Column.exists_holds_of_validate valid with ⟨rows, holds, -⟩
  have hasRuns := holds.hasRuns_maximalRuns
  refine ⟨_, holds.runLengths?, hasRuns, ?_, hasRuns.eq_nil_iff, ?_⟩
  · intro others othersHaveRuns
    exact othersHaveRuns.eq_maximalRuns holds
  · intro someRows
    rw [holds.rowCount] at someRows
    rw [List.length_map, holds.changeCount]
    cases rows with
    | nil => cases someRows
    | cons first others => exact length_maximalRuns_cons first others

/--
Two empty texts stand together and are cut off from a third by its null; the
fourth row holds another text.
-/
theorem validated_columns_have_runs_four :
    let column : Column :=
      ⟨.string #[97] #[0, 0, 0, 0, 1], (NullBitmap.allValid 4).clear 2⟩
    column.validate = .ok () ∧
      column.runLengths? = .ok [2, 1, 1] ∧
        column.HasRuns [2, 1, 1] ∧
          column.changeCount = 2 := by
  intro column
  have valid : column.validate = .ok () := Column.validate_of_counted rfl
  have measured : column.runLengths? = .ok [2, 1, 1] := by decide +kernel
  rcases validated_columns_have_runs valid with
    ⟨lengths, measuredLengths, hasRuns, -, -, counted⟩
  cases measured.symm.trans measuredLengths
  have changes := counted (by decide)
  refine ⟨valid, measured, hasRuns, ?_⟩
  exact (Nat.add_left_cancel changes).symm

end SyntheticTable
