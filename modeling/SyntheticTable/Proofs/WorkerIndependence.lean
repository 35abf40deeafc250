import SyntheticTable.Proofs.Outlining
import SyntheticTable.Proofs.SequentialBuild

/-!
# Tables do not depend on the workers

The number of workers decides how the columns are cut into chunks, and chance
decides in which order the chunks are done.  Neither can be seen in the
outcome: it is that of the sequential build, where the columns are taken one
by one and the first that fails decides the error.
-/

namespace SyntheticTable

/-- How many chunks a number of columns is cut into. -/
def chunkCount (columns asked : Nat) : Nat :=
  ((chunks? columns asked).getD []).length

theorem chunkCount_le (columns asked : Nat) :
    chunkCount columns asked ≤ columns := by
  unfold chunkCount
  cases cut : chunks? columns asked with
  | none => simp
  | some chunks => simpa using (chunks?_tiles cut).length_le

namespace TableSpec

variable
    {spec : TableSpec}
    {outline : Outline}
    {workers : Nat}
    {order : List Nat}

/-- The table with the settled number of rows. -/
def Outline.toTable (outline : Outline) (columns : List Column) : Table where
  columns := columns.toArray
  rowCount := outline.rows

/-- The task of each chunk: its columns are built from their own seeds. -/
def chunkTasks
    (spec : TableSpec)
    (outline : Outline)
    (chunks : List Chunk) :
    Array (Unit → Except BuildError (List Column)) :=
  chunks.toArray.map fun chunk (_ : Unit) =>
    buildChunk outline.rows spec.params
      ((spec.seededTypes outline).extract chunk.start chunk.stop).toList

/-- The kinds and seeds of the columns of each chunk. -/
def chunkPieces
    (spec : TableSpec)
    (outline : Outline)
    (chunks : List Chunk) :
    List (List (SemanticType × UInt32)) :=
  chunks.map fun chunk =>
    ((spec.seededTypes outline).extract chunk.start chunk.stop).toList

/-- No column is left out by the chunks, and none stands in two of them. -/
theorem flatten_chunkPieces
    {chunks : List Chunk}
    (cut : chunks? outline.types.length workers = some chunks) :
    (spec.chunkPieces outline chunks).flatten =
      (spec.seededTypes outline).toList := by
  have tiled :=
    (chunks?_tiles cut).flatMap_extract (spec.seededTypes outline) (by simp)
  rw [List.flatMap_def] at tiled
  rw [chunkPieces, tiled]
  congr 1
  simp

theorem generateInOrder_of_refused
    {error : GenerateError}
    (refused : spec.outline = .error error) :
    spec.generateInOrder workers order = .error error := by
  rw [generateInOrder, refused]
  rfl

/-- Nothing is generated where the columns cannot be cut into chunks. -/
theorem generateInOrder_of_uncut
    (outlined : spec.outline = .ok outline)
    (uncut : chunks? outline.types.length workers = none) :
    spec.generateInOrder workers order = .error .chunkOverflow := by
  rw [generateInOrder, outlined]
  simp only [bind_ok, uncut]
  rfl

theorem generateInOrder_of_outline
    {chunks : List Chunk}
    (outlined : spec.outline = .ok outline)
    (cut : chunks? outline.types.length workers = some chunks) :
    spec.generateInOrder workers order =
      (gather 0 (runTasks (spec.chunkTasks outline chunks) order).toList).map
        outline.toTable := by
  rcases outline with ⟨types, rows⟩
  simp only at cut
  simp only [generateInOrder, outlined, bind_ok, cut]
  rfl

/-- Once every task has run, the outcome is that of one chunk of all columns. -/
theorem generateInOrder_of_complete
    {chunks : List Chunk}
    (outlined : spec.outline = .ok outline)
    (cut : chunks? outline.types.length workers = some chunks)
    (complete : ∀ number, number < chunks.length → number ∈ order) :
    (spec.generateInOrder workers order).mapError GenerateError.withoutTask =
      ((buildChunk outline.rows spec.params
          (spec.seededTypes outline).toList).mapError
            GenerateError.ofBuild).map
        outline.toTable := by
  have finished :
      (runTasks (spec.chunkTasks outline chunks) order).toList =
        (spec.chunkPieces outline chunks).map fun piece =>
          some (buildChunk outline.rows spec.params piece) := by
    rw [toList_runTasks_of_complete (by simpa [chunkTasks] using complete)]
    simp [chunkTasks, chunkPieces]
  have gathered :=
    gather_buildChunk outline.rows spec.params
      (spec.chunkPieces outline chunks) 0
  rw [flatten_chunkPieces cut, ← finished] at gathered
  rw [generateInOrder_of_outline outlined cut, ← gathered]
  cases gather 0 (runTasks (spec.chunkTasks outline chunks) order).toList <;> rfl

theorem generateInTurn_of_outline
    (outlined : spec.outline = .ok outline) :
    spec.generateInTurn =
      ((buildChunk outline.rows spec.params
          (spec.seededTypes outline).toList).mapError
            GenerateError.ofBuild).map
        outline.toTable := by
  simp only [generateInTurn, outlined, bind_ok,
    buildInTurn_eq_buildChunk, List.drop_zero]
  cases buildChunk outline.rows spec.params
      (spec.seededTypes outline).toList with
  | error error => rfl
  | ok columns => simp [Outline.toTable]

/-- A table that was generated, in whatever order, is that of the sequential build. -/
theorem generateInTurn_of_generateInOrder
    {table : Table}
    (generated : spec.generateInOrder workers order = .ok table) :
    spec.generateInTurn = .ok table := by
  cases outlined : spec.outline with
  | error error =>
      rw [generateInOrder_of_refused outlined] at generated
      cases generated
  | ok outline =>
      cases cut : chunks? outline.types.length workers with
      | none =>
          rw [generateInOrder_of_uncut outlined cut] at generated
          cases generated
      | some chunks =>
          rw [generateInOrder_of_outline outlined cut, map_eq_ok_iff] at generated
          rcases generated with ⟨columns, gathered, rfl⟩
          rcases gather_eq_ok gathered with ⟨built, filed, rfl⟩
          have eachBuilt :
              built.map Except.ok =
                (spec.chunkPieces outline chunks).map
                  (buildChunk outline.rows spec.params) := by
            rw [eq_map_of_runTasks filed]
            simp [chunkTasks, chunkPieces]
          have whole := buildChunk_flatten outline.rows spec.params eachBuilt
          rw [flatten_chunkPieces cut] at whole
          rw [generateInTurn_of_outline outlined, whole]
          rfl

/-- The sequential build and any complete order of tasks have one outcome. -/
theorem generateInOrder_mapError
    (spec : TableSpec)
    (small : spec.columnCount.toNat ≤ largestCount / 2)
    (complete :
      ∀ number,
        number < chunkCount spec.columnCount.toNat workers → number ∈ order) :
    (spec.generateInOrder workers order).mapError GenerateError.withoutTask =
      spec.generateInTurn := by
  cases outlined : spec.outline with
  | error error =>
      have kept : error.withoutTask = error := by
        rcases outline_eq_error outlined with ⟨cause, rfl⟩ | ⟨cause, rfl⟩ <;> rfl
      rw [generateInOrder_of_refused outlined, mapError_error, kept,
        generateInTurn, outlined]
      rfl
  | ok outline =>
      have count : outline.types.length = spec.columnCount.toNat :=
        length_expandedTypes ((outline_eq_ok_iff spec outline).1 outlined).1
      rw [← count] at small complete
      rcases chunks?_isSome small workers with ⟨chunks, cut⟩
      rw [generateInTurn_of_outline outlined]
      refine generateInOrder_of_complete outlined cut ?_
      simpa [chunkCount, cut] using complete

/-- All tasks are run where they are run in the order of their chunks. -/
theorem generate_mapError
    (spec : TableSpec)
    (small : spec.columnCount.toNat ≤ largestCount / 2)
    (workers : Nat) :
    (spec.generate workers).mapError GenerateError.withoutTask =
      spec.generateInTurn := by
  refine generateInOrder_mapError spec small ?_
  intro number inside
  exact List.mem_range.2 (Nat.lt_of_lt_of_le inside (chunkCount_le _ _))

theorem generateInTurn_eq_ok_iff
    (spec : TableSpec)
    (table : Table) :
    spec.generateInTurn = .ok table ↔
      ∃ outline,
        spec.outline = .ok outline ∧
          table.rowCount = outline.rows ∧
          table.columns.size = outline.types.length ∧
          ∀ place (inside : place < outline.types.length),
            ∃ column,
              table.columns[place]? = some column ∧
                spec.buildColumnAt outline place inside = .ok column := by
  rcases table with ⟨columns, rowCount⟩
  simp only [generateInTurn, bind_eq_ok_iff, pure_eq_ok_iff,
    buildInTurn_eq_buildChunk, map_eq_ok_iff, mapError_eq_ok_iff,
    buildChunk_eq_ok_iff, List.drop_zero, Array.empty_append]
  constructor
  · rintro ⟨outline, outlined, _, ⟨built, ⟨count, eachBuilt⟩, rfl⟩, equal⟩
    cases equal
    exact ⟨outline, outlined, rfl, by simpa using count, by simpa using eachBuilt⟩
  · rintro ⟨outline, outlined, rfl, count, eachBuilt⟩
    refine
      ⟨outline, outlined, columns, ⟨columns.toList, ⟨?_, ?_⟩, by simp⟩, rfl⟩
    · simpa using count
    · simpa using eachBuilt

theorem generateInTurn_eq_error_iff
    (outlined : spec.outline = .ok outline)
    (error : GenerateError) :
    spec.generateInTurn = .error error ↔
      ∃ failing inside cause,
        spec.buildColumnAt outline failing inside = .error cause ∧
          error = .ofBuild cause ∧
          ∀ earlier (before : earlier < failing),
            ∃ column,
              spec.buildColumnAt outline earlier (Nat.lt_trans before inside) =
                .ok column := by
  have unfolded :
      spec.generateInTurn = .error error ↔
        spec.buildInTurn outline 0 #[] = .error error := by
    simp only [generateInTurn, outlined, bind_eq_error_iff, pure_ne_error,
      reduceCtorEq, Except.ok.injEq, false_or, exists_eq_left', and_false,
      exists_false, or_false]
  rw [unfolded, buildInTurn_eq_error_iff]
  simp

/--
Whatever the number of workers and the order in which the chunks are done, the
outcome is that of the sequential build, up to the number of a task that broke
off.  That build gives the columns in order if all of them can be built, and
otherwise the error of the first that cannot.
-/
theorem outcome_independent_of_workers
    (spec : TableSpec)
    (small : spec.columnCount.toNat ≤ largestCount / 2) :
    (∀ workers order,
      (∀ number,
        number < chunkCount spec.columnCount.toNat workers → number ∈ order) →
      (spec.generateInOrder workers order).mapError GenerateError.withoutTask =
        spec.generateInTurn) ∧
    (∀ workers others,
      (spec.generate workers).mapError GenerateError.withoutTask =
          spec.generateInTurn ∧
        (spec.generate workers).mapError GenerateError.withoutTask =
          (spec.generate others).mapError GenerateError.withoutTask) ∧
    (∀ table,
      spec.generateInTurn = .ok table ↔
        ∃ outline,
          spec.outline = .ok outline ∧
            table.rowCount = outline.rows ∧
            table.columns.size = outline.types.length ∧
            ∀ place (inside : place < outline.types.length),
              ∃ column,
                table.columns[place]? = some column ∧
                  spec.buildColumnAt outline place inside = .ok column) ∧
    (∀ outline error,
      spec.outline = .ok outline →
        (spec.generateInTurn = .error error ↔
          ∃ failing inside cause,
            spec.buildColumnAt outline failing inside = .error cause ∧
              error = .ofBuild cause ∧
              ∀ earlier (before : earlier < failing),
                ∃ column,
                  spec.buildColumnAt outline earlier
                      (Nat.lt_trans before inside) = .ok column)) := by
  refine ⟨?_, ?_, generateInTurn_eq_ok_iff spec, ?_⟩
  · intro workers order complete
    exact generateInOrder_mapError spec small complete
  · intro workers others
    have first := generate_mapError spec small workers
    have second := generate_mapError spec small others
    exact ⟨first, first.trans second.symm⟩
  · intro outline error outlined
    exact generateInTurn_eq_error_iff outlined error

/--
Three columns for two workers are cut into two chunks of different size, and
the second chunk is done first.
-/
theorem outcome_independent_of_workers_uneven :
    let spec : TableSpec :=
      { types := [.fixed .decimal64, .string]
        columnCount := 3
        tableBytes := 300
        seed? := none
        params := .standard }
    spec.columnCount.toNat ≤ largestCount / 2 ∧
      (∀ number, number < chunkCount 3 2 → number ∈ [1, 0]) ∧
      (spec.generateInOrder 2 [1, 0]).mapError GenerateError.withoutTask =
        spec.generateInTurn := by
  intro spec
  have small : spec.columnCount.toNat ≤ largestCount / 2 := by decide
  have twoChunks : chunkCount 3 2 = 2 := by
    simp [chunkCount, chunks?, chunksInto?, workerCount, largestCount]
  have complete : ∀ number, number < chunkCount 3 2 → number ∈ [1, 0] := by
    rw [twoChunks]
    decide
  exact
    ⟨small, complete,
      (outcome_independent_of_workers spec small).1 2 [1, 0] complete⟩

end TableSpec

end SyntheticTable
