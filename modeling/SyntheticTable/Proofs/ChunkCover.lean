import Mathlib.Algebra.Order.Floor.Div
import Mathlib.Data.List.Nodup
import Mathlib.Data.List.Range
import SyntheticTable.Proofs.ChunkTiling

/-!
# What the chunks cover

Columns are cut into chunks of one size, just large enough that there is a
worker for each.  Only the last chunk may be smaller.  Its end is counted
before it is cut to the number of columns, so the columns can be cut exactly
if those that the chunks would take at full size can be counted.
-/

namespace SyntheticTable

/-- The columns of a chunk. -/
def Chunk.columns (chunk : Chunk) : List Nat :=
  List.range' chunk.start (chunk.stop - chunk.start)

theorem Tiles.flatMap_columns
    {start stop : Nat}
    {tiles : List Chunk}
    (tiling : Tiles start stop tiles) :
    tiles.flatMap Chunk.columns = List.range' start (stop - start) := by
  induction tiling with
  | done stop => simp
  | @chunk start middle stop rest forward others inductionHypothesis =>
      have later : middle ≤ stop := others.start_le
      have middleEqual : start + (middle - start) = middle := by omega
      have lengths : middle - start + (stop - middle) = stop - start := by omega
      have joined :=
        List.range'_append_1 (s := start) (m := middle - start) (n := stop - middle)
      rw [middleEqual, lengths] at joined
      rw [List.flatMap_cons, inductionHypothesis]
      exact joined

/-! ## Chunks by number -/

/-- The chunk with a number, where all chunks are cut at one size. -/
def numberedChunk (columns size number : Nat) : Chunk :=
  ⟨number * size, min (number * size + size) columns⟩

section Size

variable
    (columns : Nat)
    {size : Nat}
    (positive : 0 < size)
include positive

/-- The chunks that are needed are those that start at some column. -/
theorem lt_chunkCount_iff (number : Nat) :
    number < columns ⌈/⌉ size ↔ number * size < columns := by
  rw [← not_le, ceilDiv_le_iff_le_mul positive, not_le, Nat.mul_comm]

theorem columns_le_chunkCount_mul : columns ≤ columns ⌈/⌉ size * size := by
  rw [Nat.mul_comm]
  exact (ceilDiv_le_iff_le_mul positive).1 (Nat.le_refl _)

/-- Chunks are cut from a number on if the end of the last can be counted. -/
theorem chunksInto?_numbered
    (number : Nat)
    (chunks : Array Chunk) :
    chunksInto? columns size (number * size) chunks =
      if columns ⌈/⌉ size ≤ number ∨ columns ⌈/⌉ size * size ≤ largestCount then
        some
          (chunks ++
            (List.range' number (columns ⌈/⌉ size - number)).map
              (numberedChunk columns size))
      else
        none := by
  have needed := fun number => lt_chunkCount_iff columns positive number
  generalize startEqual : number * size = start
  fun_induction chunksInto? columns size start chunks generalizing number with
  | case1 start chunks more within inductionHypothesis =>
      subst startEqual
      have isNeeded := (needed number).2 more.2
      have others := inductionHypothesis (number + 1) (Nat.succ_mul number size)
      have firstChunk :
          (List.range' number (columns ⌈/⌉ size - number)).map
              (numberedChunk columns size) =
            ⟨number * size, min (number * size + size) columns⟩ ::
              (List.range' (number + 1) (columns ⌈/⌉ size - (number + 1))).map
                (numberedChunk columns size) := by
        rw [← Nat.sub_add_cancel (Nat.sub_pos_of_lt isNeeded), List.range'_succ,
          List.map_cons, Nat.sub_sub]
        rfl
      have sameCondition :
          (columns ⌈/⌉ size ≤ number + 1 ∨ columns ⌈/⌉ size * size ≤ largestCount) ↔
            (columns ⌈/⌉ size ≤ number ∨ columns ⌈/⌉ size * size ≤ largestCount) := by
        constructor
        · rintro (last | counted)
          · have isLast : columns ⌈/⌉ size = number + 1 := by omega
            rw [isLast, Nat.succ_mul]
            exact .inr within
          · exact .inr counted
        · rintro (beyond | counted)
          · omega
          · exact .inr counted
      rw [others, firstChunk]
      simp only [sameCondition]
      simp
  | case2 start chunks more beyond =>
      subst startEqual
      have isNeeded := (needed number).2 more.2
      have tooFar : number * size + size ≤ columns ⌈/⌉ size * size := by
        rw [← Nat.succ_mul]
        exact Nat.mul_le_mul_right size isNeeded
      rw [if_neg (by omega)]
  | case3 start chunks finished =>
      subst startEqual
      have noneNeeded : columns ⌈/⌉ size ≤ number := by
        rw [← not_lt, needed]
        omega
      rw [if_pos (.inl noneNeeded), Nat.sub_eq_zero_of_le noneNeeded]
      simp

end Size

/-- The chunks are the numbered ones, if the end of the last can be counted. -/
theorem chunks?_eq
    (columns asked : Nat)
    {size : Nat}
    (sizeEqual : size = columns ⌈/⌉ max asked 1) :
    chunks? columns asked =
      if columns ⌈/⌉ size * size ≤ largestCount then
        some ((List.range (columns ⌈/⌉ size)).map (numberedChunk columns size))
      else
        none := by
  have sized : (columns + (workerCount asked - 1)) / workerCount asked = size := by
    rw [sizeEqual, Nat.ceilDiv_eq_add_pred_div, workerCount,
      Nat.add_sub_assoc (Nat.le_max_right asked 1)]
  have cut : chunks? columns asked = (chunksInto? columns size 0 #[]).map Array.toList := by
    rw [chunks?, ← sized]
  rw [cut]
  rcases Nat.eq_zero_or_pos size with noSize | positive
  · -- Without columns chunks have no size, and none is cut.
    subst noSize
    rw [chunksInto?, if_neg (by simp), ceilDiv_zero]
    simp
  · have fromStart := chunksInto?_numbered columns positive 0 #[]
    have condition :
        columns ⌈/⌉ size ≤ 0 ∨ columns ⌈/⌉ size * size ≤ largestCount ↔
          columns ⌈/⌉ size * size ≤ largestCount := by
      refine ⟨?_, Or.inr⟩
      rintro (none | counted)
      · rw [Nat.le_zero.1 none, Nat.zero_mul]
        exact Nat.zero_le _
      · exact counted
    rw [Nat.zero_mul, Nat.sub_zero, ← List.range_eq_range'] at fromStart
    rw [fromStart]
    simp only [condition]
    split
    · simp
    · rfl

/-- The end of the last chunk is counted as if the chunk were whole. -/
example : chunks? largestCount 2 = none := by
  rw [chunks?_eq largestCount 2 rfl]
  rfl

/-! ## Covered columns -/

/-- Chunks cover a number of columns, all but the last chunk at one size. -/
structure Covers (columns size : Nat) (chunks : List Chunk) : Prop where
  inhabited : ∀ chunk ∈ chunks, chunk.start < chunk.stop
  first : ∀ chunk ∈ chunks.head?, chunk.start = 0
  adjacent : chunks.IsChain fun earlier later => later.start = earlier.stop
  whole : ∀ chunk ∈ chunks.dropLast, chunk.stop = chunk.start + size
  last :
    ∀ chunk ∈ chunks.getLast?,
      chunk.stop ≤ chunk.start + size ∧ chunk.stop = columns
  disjoint : chunks.Pairwise fun earlier later => earlier.columns.Disjoint later.columns
  all : chunks.flatMap Chunk.columns = List.range columns

theorem Covers.nothing (size : Nat) : Covers 0 size [] := by
  constructor <;> simp

/-- A chunk with another one behind it is whole. -/
theorem stop_numberedChunk
    {columns size number : Nat}
    (positive : 0 < size)
    (behind : number + 1 < columns ⌈/⌉ size) :
    (numberedChunk columns size number).stop = (number + 1) * size := by
  have inside := (lt_chunkCount_iff columns positive (number + 1)).1 behind
  rw [Nat.succ_mul] at inside ⊢
  exact Nat.min_eq_left (Nat.le_of_lt inside)

/-- As many numbered chunks as are needed cover the columns. -/
theorem covers_numberedChunks
    {columns size : Nat}
    (positive : 0 < size)
    (tiling :
      Tiles 0 columns
        ((List.range (columns ⌈/⌉ size)).map (numberedChunk columns size))) :
    Covers columns size
      ((List.range (columns ⌈/⌉ size)).map (numberedChunk columns size)) := by
  have all :
      ((List.range (columns ⌈/⌉ size)).map (numberedChunk columns size)).flatMap
          Chunk.columns =
        List.range columns := by
    rw [tiling.flatMap_columns, Nat.sub_zero, List.range_eq_range']
  constructor
  case inhabited =>
    intro chunk member
    rcases List.mem_map.1 member with ⟨number, needed, rfl⟩
    have inside := (lt_chunkCount_iff columns positive number).1 (List.mem_range.1 needed)
    show number * size < min (number * size + size) columns
    omega
  case first =>
    intro chunk isFirst
    rw [List.head?_map, List.head?_range] at isFirst
    split at isFirst
    · cases isFirst
    · cases isFirst
      exact Nat.zero_mul size
  case adjacent =>
    rw [List.isChain_map, List.isChain_range]
    intro number before
    exact (stop_numberedChunk positive (by omega)).symm
  case whole =>
    intro chunk member
    rw [← List.map_dropLast] at member
    rcases List.mem_map.1 member with ⟨number, before, rfl⟩
    rw [List.dropLast_eq_take, List.length_range, List.take_range] at before
    have behind : number + 1 < columns ⌈/⌉ size := by
      have := List.mem_range.1 before
      omega
    rw [stop_numberedChunk positive behind, Nat.succ_mul]
    rfl
  case last =>
    intro chunk isLast
    rw [List.getLast?_map, List.getLast?_range] at isLast
    split at isLast
    · cases isLast
    · rename_i anyNeeded
      cases isLast
      have covered := columns_le_chunkCount_mul columns positive
      have split : columns ⌈/⌉ size * size = (columns ⌈/⌉ size - 1) * size + size := by
        rw [← Nat.succ_mul, Nat.succ_eq_add_one, Nat.sub_add_cancel (by omega)]
      rw [split] at covered
      exact ⟨Nat.min_le_left _ _, Nat.min_eq_right covered⟩
  case disjoint =>
    have distinct := List.nodup_range (n := columns)
    rw [← all, List.nodup_flatMap] at distinct
    exact distinct.2
  case all => exact all

theorem chunkCount_le_workers
    {columns workers : Nat}
    (anyWorkers : 0 < workers) :
    columns ⌈/⌉ (columns ⌈/⌉ workers) ≤ workers := by
  rcases Nat.eq_zero_or_pos (columns ⌈/⌉ workers) with noSize | positive
  · rw [noSize, ceilDiv_zero]
    exact Nat.zero_le workers
  · rw [ceilDiv_le_iff_le_mul positive]
    exact columns_le_chunkCount_mul columns anyWorkers

/--
Columns are cut for workers, of whom there is at least one, exactly if the
columns that the chunks would take at full size can be counted.  The chunks
are then no more than the workers, and they cover the columns: each has some
column and starts where the one before it stops, all but the last have the size
that is one worker's share, and the last is no larger and stops at the last
column; so no column is in two chunks, and together they are all columns.
-/
theorem chunks_cover_columns (columns asked : Nat) :
    let size := columns ⌈/⌉ max asked 1
    let count := columns ⌈/⌉ size
    if count * size ≤ largestCount then
      ∃ chunks,
        chunks? columns asked = some chunks ∧
          chunks.length = count ∧
            count ≤ max asked 1 ∧
              Covers columns size chunks
    else
      chunks? columns asked = none := by
  intro size count
  have cut := chunks?_eq columns asked (show size = columns ⌈/⌉ max asked 1 from rfl)
  split
  · rename_i counted
    rw [if_pos counted] at cut
    refine ⟨_, cut, by simp [count], chunkCount_le_workers (by omega), ?_⟩
    have tiling := chunks?_tiles cut
    rcases Nat.eq_zero_or_pos size with noSize | positive
    · have noColumns : columns = 0 := by
        have covered := columns_le_chunkCount_mul columns (show 0 < max asked 1 by omega)
        rw [show columns ⌈/⌉ max asked 1 = 0 from noSize] at covered
        omega
      rw [noSize, ceilDiv_zero, noColumns]
      exact .nothing 0
    · exact covers_numberedChunks positive tiling
  · rename_i uncounted
    rw [cut, if_neg uncounted]

end SyntheticTable
