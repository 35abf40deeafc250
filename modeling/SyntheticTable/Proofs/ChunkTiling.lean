import SyntheticTable.Generate

/-!
# Chunks tile the columns

The chunks of a table follow one another without a gap from the first column
to the last, so what stands in the chunks, read one after the other, is what
stands in the columns.  A table of up to half as many columns as can be
counted can always be cut.
-/

namespace SyntheticTable

/-- Chunks that follow one another without a gap, each with some column. -/
inductive Tiles : (start stop : Nat) → List Chunk → Prop where
  | done (stop : Nat) : Tiles stop stop []
  | chunk
      {start middle stop : Nat}
      {rest : List Chunk}
      (forward : start < middle)
      (others : Tiles middle stop rest) :
      Tiles start stop (⟨start, middle⟩ :: rest)

namespace Tiles

variable
    {start stop : Nat}
    {tiles : List Chunk}

theorem start_le (tiling : Tiles start stop tiles) : start ≤ stop := by
  induction tiling with
  | done stop => exact Nat.le_refl stop
  | chunk forward others inductionHypothesis => omega

theorem length_le
    (tiling : Tiles start stop tiles) :
    tiles.length + start ≤ stop := by
  induction tiling with
  | done stop => simp
  | chunk forward others inductionHypothesis =>
      simp only [List.length_cons]
      omega

/-- The entries that belong to the chunks in order are those between the ends. -/
theorem flatMap_extract
    {α : Type}
    (tiling : Tiles start stop tiles)
    (entries : Array α)
    (inside : stop ≤ entries.size) :
    (tiles.flatMap fun tile =>
        (entries.extract tile.start tile.stop).toList) =
      (entries.extract start stop).toList := by
  induction tiling with
  | done stop => simp
  | @chunk start middle stop rest forward others inductionHypothesis =>
      have later : middle ≤ stop := others.start_le
      have joined :
          entries.extract start middle ++ entries.extract middle stop =
            entries.extract start stop := by
        rw [Array.extract_append_extract, Nat.min_eq_left (Nat.le_of_lt forward),
          Nat.max_eq_right later]
      rw [List.flatMap_cons, inductionHypothesis inside, ← Array.toList_append,
        joined]

end Tiles

/-- What is cut from a column on tiles the columns that are left. -/
theorem chunksInto?_tiles
    {columns size start : Nat}
    {chunks all : Array Chunk}
    (positive : 0 < size)
    (cut : chunksInto? columns size start chunks = some all) :
    ∃ tiles,
      all.toList = chunks.toList ++ tiles ∧
        Tiles (min start columns) columns tiles := by
  fun_induction chunksInto? columns size start chunks with
  | case1 start chunks more within inductionHypothesis =>
      rcases inductionHypothesis cut with ⟨tiles, allEqual, tiling⟩
      refine ⟨⟨start, min (start + size) columns⟩ :: tiles, ?_, ?_⟩
      · simpa using allEqual
      · rw [Nat.min_eq_left (Nat.le_of_lt more.2)]
        exact .chunk (by omega) tiling
  | case2 start chunks more beyond => cases cut
  | case3 start chunks finished =>
      cases cut
      have beyond : columns ≤ start := by omega
      refine ⟨[], by simp, ?_⟩
      rw [Nat.min_eq_right beyond]
      exact .done columns

/-- The columns can be cut as long as no chunk ends beyond what can be counted. -/
theorem chunksInto?_isSome
    {columns size : Nat}
    (start : Nat)
    (chunks : Array Chunk)
    (within : columns + size ≤ largestCount + 1) :
    (chunksInto? columns size start chunks).isSome = true := by
  fun_induction chunksInto? columns size start chunks with
  | case1 start chunks more within inductionHypothesis => exact inductionHypothesis
  | case2 start chunks more beyond => omega
  | case3 start chunks finished => rfl

theorem chunks?_tiles
    {columns asked : Nat}
    {chunks : List Chunk}
    (cut : chunks? columns asked = some chunks) :
    Tiles 0 columns chunks := by
  rcases Option.map_eq_some_iff.1 cut with ⟨all, cutAll, rfl⟩
  rcases Nat.eq_zero_or_pos columns with empty | inhabited
  · subst empty
    rw [chunksInto?, if_neg (by simp)] at cutAll
    cases cutAll
    exact .done 0
  · have positive : 0 < (columns + (workerCount asked - 1)) / workerCount asked :=
      Nat.div_pos (by unfold workerCount; omega) (by unfold workerCount; omega)
    rcases chunksInto?_tiles positive cutAll with ⟨tiles, allEqual, tiling⟩
    rw [Nat.zero_min] at tiling
    simpa [allEqual] using tiling

/-- Up to half as many columns as can be counted can be cut for any workers. -/
theorem chunks?_isSome
    {columns : Nat}
    (small : columns ≤ largestCount / 2)
    (asked : Nat) :
    ∃ chunks, chunks? columns asked = some chunks := by
  have workers : 0 < workerCount asked := by
    unfold workerCount
    omega
  have bounded :
      (columns + (workerCount asked - 1)) / workerCount asked ≤ columns + 1 := by
    rw [Nat.div_le_iff_le_mul workers]
    have : columns ≤ columns * workerCount asked := Nat.le_mul_of_pos_right _ workers
    rw [Nat.add_mul]
    omega
  have within :
      columns + (columns + (workerCount asked - 1)) / workerCount asked
        ≤ largestCount + 1 := by
    omega
  rcases Option.isSome_iff_exists.1 (chunksInto?_isSome 0 #[] within) with
    ⟨all, cut⟩
  exact ⟨all.toList, by simp [chunks?, cut]⟩

end SyntheticTable
