import SyntheticTable.NullBitmap

/-!
# Bitmaps by their rows

A bitmap is nothing but the validity of its rows: two bitmaps over the same
rows that agree on each of them agree in all their words, since the bits that
belong to no row are set in both.
-/

namespace SyntheticTable.NullBitmap

/-- The positions of a word follow one another. -/
theorem bitAt_word
    {words : Array UInt32}
    {index place : Nat}
    (inside : index < words.size)
    (small : place < bitsPerWord) :
    bitAt words (bitsPerWord * index + place) =
      words[index].toBitVec.getLsbD place := by
  have wordOf : (bitsPerWord * index + place) / bitsPerWord = index := by
    rw [Nat.mul_add_div (Nat.zero_lt_of_lt small), Nat.div_eq_of_lt small,
      Nat.add_zero]
  have placeOf : (bitsPerWord * index + place) % bitsPerWord = place := by
    rw [Nat.mul_add_mod, Nat.mod_eq_of_lt small]
  simp [bitAt, wordOf, placeOf, Array.getD, inside]

/-- Words of one number are equal when all their bits are. -/
theorem eq_of_bitAt_eq
    {left right : Array UInt32}
    (sizes : left.size = right.size)
    (bits :
      ∀ position,
        position < bitsPerWord * left.size →
          bitAt left position = bitAt right position) :
    left = right := by
  refine Array.ext sizes ?_
  intro index leftInside rightInside
  have wordsEqual : left[index].toBitVec = right[index].toBitVec := by
    apply BitVec.eq_of_getLsbD_eq
    intro place small
    have inside : bitsPerWord * index + place < bitsPerWord * left.size := by
      unfold bitsPerWord
      omega
    rw [← bitAt_word leftInside small, ← bitAt_word rightInside small]
    exact bits _ inside
  exact UInt32.toBitVec_inj.1 wordsEqual

theorem eq_iff_words (left right : NullBitmap) :
    left = right ↔ left.rows = right.rows ∧ left.words = right.words := by
  constructor
  · rintro rfl
    exact ⟨rfl, rfl⟩
  · cases left
    cases right
    rintro ⟨rowsEqual, wordsEqual⟩
    simp only at rowsEqual wordsEqual
    subst rowsEqual wordsEqual
    rfl

theorem ext_rows
    {left right : NullBitmap}
    (rowsEqual : left.rows = right.rows)
    (bitsEqual : ∀ row, row < left.rows → left.bit row = right.bit row) :
    left = right := by
  have sizes : left.words.size = right.words.size := by
    rw [left.size_words, right.size_words, rowsEqual]
  have wordsEqual : left.words = right.words := by
    refine eq_of_bitAt_eq sizes ?_
    intro position inside
    by_cases isRow : position < left.rows
    · exact bitsEqual position isRow
    · have insideRight : position < bitsPerWord * right.words.size := by
        rw [← sizes]
        exact inside
      rw [left.padding position (by omega) inside,
        right.padding position (by omega) insideRight]
  exact (eq_iff_words left right).2 ⟨rowsEqual, wordsEqual⟩

theorem clear_of_outside
    {bitmap : NullBitmap}
    {row : Nat}
    (outside : bitmap.rows ≤ row) :
    bitmap.clear row = bitmap := by
  rw [clear, dif_neg (by omega)]

theorem nullCount_eq (bitmap : NullBitmap) :
    bitmap.nullCount =
      (List.range bitmap.rows).countP fun row => !bitmap.bit row := by
  have counted :
      ∀ rows : Nat,
        rows.fold
            (fun row _ count => if bitmap.bit row then count else count + 1) 0 =
          (List.range rows).countP fun row => !bitmap.bit row := by
    intro rows
    induction rows with
    | zero => rfl
    | succ rows inductionHypothesis =>
        rw [Nat.fold_succ, inductionHypothesis, List.range_succ,
          List.countP_append, List.countP_singleton]
        cases bitmap.bit rows <;> rfl
  exact counted bitmap.rows

/-! ## Bitmaps of a test -/

/-- The bitmap of a test that has been made for the first rows only. -/
def ofTestUpTo (rows tested : Nat) (test : Nat → Bool) : NullBitmap :=
  tested.fold
    (fun row _ bitmap => if test row then bitmap else bitmap.clear row)
    (allValid rows)

theorem ofTestUpTo_succ (rows tested : Nat) (test : Nat → Bool) :
    ofTestUpTo rows (tested + 1) test =
      if test tested then ofTestUpTo rows tested test
      else (ofTestUpTo rows tested test).clear tested := by
  rw [ofTestUpTo, Nat.fold_succ]
  rfl

@[simp]
theorem rows_ofTestUpTo (rows tested : Nat) (test : Nat → Bool) :
    (ofTestUpTo rows tested test).rows = rows := by
  induction tested with
  | zero => rfl
  | succ tested inductionHypothesis =>
      rw [ofTestUpTo_succ]
      split
      · exact inductionHypothesis
      · rw [rows_clear, inductionHypothesis]

/-- The rows tested so far are settled, and the others are still valid. -/
theorem bit_ofTestUpTo
    {rows tested row : Nat}
    (test : Nat → Bool)
    (testedInside : tested ≤ rows)
    (inside : row < rows) :
    (ofTestUpTo rows tested test).bit row =
      (test row || decide (tested ≤ row)) := by
  induction tested with
  | zero =>
      show (allValid rows).bit row = _
      simp [bit_allValid inside]
  | succ tested inductionHypothesis =>
      have settled := inductionHypothesis (by omega)
      have others : tested ≠ row → (tested + 1 ≤ row ↔ tested ≤ row) := by omega
      rw [ofTestUpTo_succ]
      cases passed : test tested with
      | true =>
          rw [if_pos rfl, settled]
          by_cases same : tested = row
          · subst same
            simp [passed]
          · simp [others same]
      | false =>
          have within : tested < (ofTestUpTo rows tested test).rows := by
            rw [rows_ofTestUpTo]
            omega
          rw [if_neg Bool.false_ne_true, bit_clear _ within, settled]
          by_cases same : tested = row
          · subst same
            simp [passed]
          · simp [others same, same]

@[simp]
theorem rows_ofTest (rows : Nat) (test : Nat → Bool) :
    (ofTest rows test).rows = rows :=
  rows_ofTestUpTo rows rows test

theorem bit_ofTest
    {rows row : Nat}
    (test : Nat → Bool)
    (inside : row < rows) :
    (ofTest rows test).bit row = test row := by
  have settled := bit_ofTestUpTo test (Nat.le_refl rows) inside
  simpa [ofTest, ofTestUpTo, Nat.not_le.2 inside] using settled

/-- A bitmap is the bitmap of any test that says which of its rows are valid. -/
theorem eq_ofTest
    {bitmap : NullBitmap}
    {rows : Nat}
    {test : Nat → Bool}
    (rowsEqual : bitmap.rows = rows)
    (bitsEqual : ∀ row, row < rows → bitmap.bit row = test row) :
    bitmap = ofTest rows test := by
  refine ext_rows (by simpa using rowsEqual) ?_
  intro row inside
  rw [rowsEqual] at inside
  rw [bitsEqual row inside, bit_ofTest test inside]

theorem allValid_eq_ofTest (rows : Nat) : allValid rows = ofTest rows fun _ => true := by
  refine eq_ofTest rfl ?_
  intro row inside
  exact bit_allValid inside

/-- Clearing a row is letting it fail the test. -/
theorem clear_ofTest (rows row : Nat) (test : Nat → Bool) :
    (ofTest rows test).clear row =
      ofTest rows fun other => test other && decide (row ≠ other) := by
  refine eq_ofTest (by simp) ?_
  intro other inside
  by_cases within : row < rows
  · rw [bit_clear _ (by simpa using within), bit_ofTest test inside]
  · have different : row ≠ other := by omega
    rw [clear_of_outside (by simpa using within), bit_ofTest test inside]
    simp [different]

section Cells

variable
    {α : Type}
    (isValid : α → Bool)
    (cells : List α)
    (cell : α)

/-- A row behind all cells is valid, until it gets a cell. -/
theorem getD_append_singleton (row : Nat) :
    ((cells ++ [cell])[row]?.map isValid).getD true =
      ((cells[row]?.map isValid).getD true
        && (isValid cell || decide (cells.length ≠ row))) := by
  by_cases last : row = cells.length
  · subst last
    simp
  · have different : cells.length ≠ row := Ne.symm last
    have same : (cells ++ [cell])[row]? = cells[row]? := by
      rcases Nat.lt_or_gt_of_ne last with within | beyond
      · exact List.getElem?_append_left within
      · rw [List.getElem?_eq_none (by simp; omega), List.getElem?_eq_none (by omega)]
    rw [same]
    simp [different]

/-- One more cell settles the validity of the first row that had none. -/
theorem settle_ofTest (rows : Nat) :
    (if isValid cell then
        ofTest rows fun row => (cells[row]?.map isValid).getD true
      else
        (ofTest rows fun row => (cells[row]?.map isValid).getD true).clear
          cells.length) =
      ofTest rows fun row => ((cells ++ [cell])[row]?.map isValid).getD true := by
  simp only [getD_append_singleton]
  cases isValid cell with
  | true => simp
  | false => simp [clear_ofTest]

end Cells

end SyntheticTable.NullBitmap
