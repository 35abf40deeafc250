/-!
# Null bitmaps

One bit for each row of a column, packed into 32-bit words: the bit of a valid
row is set.  A bitmap starts with every row valid, and rows are only ever made
null.

The bits of the last word that belong to no row stay set.  This is part of the
type, so two bitmaps over the same rows agree in their words as soon as they
agree on their rows.
-/

namespace SyntheticTable

/-- A row lies outside a bitmap. -/
structure RowOutOfBounds where
  /-- The row that was asked for. -/
  row : Nat
  /-- How many rows there are. -/
  rows : Nat
deriving DecidableEq, Repr

/-- The wording of the error. -/
def RowOutOfBounds.message (error : RowOutOfBounds) : String :=
  s!"row {error.row} out of bounds ({error.rows})"

namespace NullBitmap

/-- How many rows one word keeps. -/
def bitsPerWord : Nat := 32

/-- How many words a number of rows takes. -/
def wordsFor (rows : Nat) : Nat :=
  (rows + (bitsPerWord - 1)) / bitsPerWord

/-- The bit that a sequence of words keeps at a position. -/
def bitAt (words : Array UInt32) (position : Nat) : Bool :=
  (words.getD (position / bitsPerWord) 0).toBitVec.getLsbD
    (position % bitsPerWord)

/-- The words with the bit at one position cleared. -/
def clearBit (words : Array UInt32) (position : Nat) : Array UInt32 :=
  words.modify (position / bitsPerWord) fun word =>
    .ofBitVec (word.toBitVec &&& ~~~BitVec.twoPow 32 (position % bitsPerWord))

@[simp]
theorem size_clearBit (words : Array UInt32) (position : Nat) :
    (clearBit words position).size = words.size := by
  simp [clearBit]

theorem bitAt_clearBit
    (words : Array UInt32)
    (position other : Nat) :
    bitAt (clearBit words position) other =
      (bitAt words other && decide (position ≠ other)) := by
  have positionSplit := Nat.div_add_mod position bitsPerWord
  have otherSplit := Nat.div_add_mod other bitsPerWord
  have otherSmall : other % bitsPerWord < 32 := Nat.mod_lt _ (by decide)
  unfold bitAt clearBit
  by_cases inside : other / bitsPerWord < words.size
  · by_cases sameWord : position / bitsPerWord = other / bitsPerWord
    · by_cases sameBit : position % bitsPerWord = other % bitsPerWord
      · have same : position = other := by
          rw [← positionSplit, ← otherSplit, sameWord, sameBit]
        subst same
        simp [Array.getD, inside, Array.getElem_modify, otherSmall]
      · have different : position ≠ other := fun equal => sameBit (by rw [equal])
        simp [Array.getD, inside, Array.getElem_modify, sameWord, otherSmall,
          Ne.symm sameBit, different]
    · have different : position ≠ other := fun equal => sameWord (by rw [equal])
      simp [Array.getD, inside, Array.getElem_modify, sameWord, different]
  · simp [Array.getD, inside]

/-- Every bit of words without a zero is set. -/
theorem bitAt_replicate
    (count position : Nat)
    (inside : position < bitsPerWord * count) :
    bitAt (Array.replicate count (0xFFFF_FFFF : UInt32)) position = true := by
  have wordInside : position / bitsPerWord < count :=
    Nat.div_lt_of_lt_mul inside
  have bitSmall : position % bitsPerWord < 32 := Nat.mod_lt _ (by decide)
  have allSet : (0xFFFF_FFFF : UInt32).toBitVec = BitVec.allOnes 32 := by decide
  have word :
      (Array.replicate count (0xFFFF_FFFF : UInt32)).getD
        (position / bitsPerWord) 0 = 0xFFFF_FFFF := by
    simp [Array.getD, wordInside]
  rw [bitAt, word, allSet, BitVec.getLsbD_allOnes]
  exact decide_eq_true bitSmall

end NullBitmap

/-- The validity of a number of rows. -/
structure NullBitmap where
  /-- How many rows there are. -/
  rows : Nat
  /-- The packed bits, the first row in the lowest bit of the first word. -/
  words : Array UInt32
  size_words : words.size = NullBitmap.wordsFor rows
  /-- Bits that belong to no row are set. -/
  padding :
    ∀ position, rows ≤ position →
      position < NullBitmap.bitsPerWord * words.size →
        NullBitmap.bitAt words position = true
deriving DecidableEq

namespace NullBitmap

/-- The bitmap in which every row is valid. -/
def allValid (rows : Nat) : NullBitmap where
  rows := rows
  words := Array.replicate (wordsFor rows) 0xFFFF_FFFF
  size_words := by simp
  padding := by
    intro position _ inside
    exact bitAt_replicate _ _ (by simpa using inside)

/-- Whether the bit of a row is set. -/
def bit (bitmap : NullBitmap) (row : Nat) : Bool :=
  bitAt bitmap.words row

/-- Makes a row null.  A row outside the bitmap changes nothing. -/
def clear (bitmap : NullBitmap) (row : Nat) : NullBitmap :=
  if inside : row < bitmap.rows then
    { rows := bitmap.rows
      words := clearBit bitmap.words row
      size_words := by rw [size_clearBit, bitmap.size_words]
      padding := by
        intro position outside small
        rw [size_clearBit] at small
        have different : row ≠ position := by omega
        rw [bitAt_clearBit, bitmap.padding position outside small]
        simp [different] }
  else
    bitmap

/-- Whether a row is valid; an error outside the bitmap. -/
def isValid? (bitmap : NullBitmap) (row : Nat) : Except RowOutOfBounds Bool :=
  if row < bitmap.rows then .ok (bitmap.bit row)
  else .error ⟨row, bitmap.rows⟩

/-- Makes a row null; an error outside the bitmap. -/
def clear?
    (bitmap : NullBitmap)
    (row : Nat) :
    Except RowOutOfBounds NullBitmap :=
  if row < bitmap.rows then .ok (bitmap.clear row)
  else .error ⟨row, bitmap.rows⟩

/-- The bitmap in which exactly the rows that pass a test are valid. -/
def ofTest (rows : Nat) (test : Nat → Bool) : NullBitmap :=
  rows.fold
    (fun row _ bitmap => if test row then bitmap else bitmap.clear row)
    (allValid rows)

/-- How many rows are null. -/
def nullCount (bitmap : NullBitmap) : Nat :=
  bitmap.rows.fold
    (fun row _ count => if bitmap.bit row then count else count + 1) 0

/-- How many bytes the words take. -/
def byteSize (bitmap : NullBitmap) : Nat :=
  4 * bitmap.words.size

@[simp]
theorem rows_allValid (rows : Nat) : (allValid rows).rows = rows :=
  rfl

@[simp]
theorem rows_clear (bitmap : NullBitmap) (row : Nat) :
    (bitmap.clear row).rows = bitmap.rows := by
  unfold clear
  split <;> rfl

theorem bit_allValid
    {rows row : Nat}
    (inside : row < rows) :
    (allValid rows).bit row = true := by
  refine bitAt_replicate _ _ ?_
  unfold wordsFor bitsPerWord
  omega

/-- Clearing a row changes that row only. -/
theorem bit_clear
    (bitmap : NullBitmap)
    {row : Nat}
    (inside : row < bitmap.rows)
    (other : Nat) :
    (bitmap.clear row).bit other =
      (bitmap.bit other && decide (row ≠ other)) := by
  rw [clear, dif_pos inside]
  exact bitAt_clearBit bitmap.words row other

end NullBitmap

end SyntheticTable
