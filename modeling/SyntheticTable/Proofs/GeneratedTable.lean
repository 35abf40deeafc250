import SyntheticTable.Command.Report
import SyntheticTable.Proofs.BuiltColumn
import SyntheticTable.Proofs.HandOff
import SyntheticTable.Proofs.Summaries
import SyntheticTable.Proofs.WorkerIndependence

/-!
# Generated tables are stored

Every column of a generated table was built, so it can be read, it passes the
checks of a store, and it has the rows of the table.  Hence the table has a
summary, and any store takes it and grows by what the summary says and by the
bitmaps.
-/

namespace SyntheticTable

theorem mapM_summaries
    {columns : List Column}
    (readable : ∀ column ∈ columns, ∃ rows, column.Holds rows) :
    ∃ summaries,
      columns.mapM ColumnSummary.of = .ok summaries ∧
        summaries.map ColumnSummary.byteSize =
          columns.map fun column => column.data.byteSize := by
  induction columns with
  | nil => exact ⟨[], rfl, rfl⟩
  | cons column columns inductionHypothesis =>
      rcases readable column (List.mem_cons_self ..) with ⟨rows, holds⟩
      rcases holds.summary with ⟨summary, summaryEqual, -, byteSize⟩
      rcases inductionHypothesis fun other member =>
          readable other (List.mem_cons_of_mem column member) with
        ⟨summaries, summariesEqual, byteSizes⟩
      refine ⟨summary :: summaries, ?_, ?_⟩
      · rw [List.mapM_cons, summaryEqual, summariesEqual]
        rfl
      · rw [List.map_cons, List.map_cons, byteSize, byteSizes]

/-- Columns with the same rows take the bytes of their buffers and of as many bitmaps. -/
theorem sum_columnBytes
    {columns : List Column}
    {rows : Nat}
    (sameRows : ∀ column ∈ columns, column.rowCount = rows) :
    (columns.map HostStore.columnBytes).foldr (· + ·) 0 =
      (columns.map fun column => column.data.byteSize).foldr (· + ·) 0 +
        columns.length * (4 * ((rows + 31) / 32)) := by
  induction columns with
  | nil => simp
  | cons column columns inductionHypothesis =>
      have others :=
        inductionHypothesis fun other member =>
          sameRows other (List.mem_cons_of_mem column member)
      have words : column.mask.byteSize = 4 * ((rows + 31) / 32) := by
        rw [← sameRows column (List.mem_cons_self ..), NullBitmap.byteSize,
          column.mask.size_words]
        rfl
      rw [List.map_cons, List.foldr_cons, others, List.map_cons,
        List.foldr_cons, HostStore.columnBytes, words, List.length_cons,
        Nat.add_one_mul columns.length]
      omega

namespace TableSpec

variable
    {spec : TableSpec}
    {workers : Nat}
    {order : List Nat}
    {table : Table}

theorem outline_of_generated
    (generated : spec.generateInOrder workers order = .ok table) :
    spec.outline = .ok ⟨table.semanticTypes, table.rowCount⟩ := by
  rcases
      (generateInTurn_eq_ok_iff spec table).1
        (generateInTurn_of_generateInOrder generated) with
    ⟨outline, outlined, rowCount, count, eachBuilt⟩
  have types : table.semanticTypes = outline.types := by
    refine List.ext_getElem (by simpa [Table.semanticTypes] using count) ?_
    intro place placeInside inside
    rcases eachBuilt place inside with ⟨column, found, built⟩
    rcases buildColumn_holds built with ⟨-, -, -, -, type⟩
    rcases Array.getElem?_eq_some_iff.1 found with ⟨_, columnEqual⟩
    simp only [Table.semanticTypes, List.getElem_map, Array.getElem_toList,
      columnEqual, type]
  rw [types, rowCount]
  exact outlined

theorem columns_of_generated
    (generated : spec.generateInOrder workers order = .ok table) :
    spec.expandedTypes = .ok table.semanticTypes ∧
      ∀ column ∈ table.columns.toList,
        column.rowCount = table.rowCount ∧
          column.validate = .ok () ∧
            ∃ rows, column.Holds rows := by
  rcases
      (generateInTurn_eq_ok_iff spec table).1
        (generateInTurn_of_generateInOrder generated) with
    ⟨outline, outlined, rowCount, count, eachBuilt⟩
  constructor
  · exact ((outline_eq_ok_iff spec _).1 (outline_of_generated generated)).1
  · intro column member
    rcases List.getElem?_of_mem member with ⟨place, found⟩
    rw [Array.getElem?_toList] at found
    rcases Array.getElem?_eq_some_iff.1 found with ⟨placeInside, -⟩
    rcases eachBuilt place (count ▸ placeInside) with
      ⟨other, otherFound, built⟩
    cases found.symm.trans otherFound
    rcases buildColumn_holds built with ⟨_, -, holds, valid, -⟩
    exact
      ⟨(buildColumn_rowCount built).trans rowCount.symm, valid, _, holds⟩

/-- A generated table can be summed up: it takes the bytes of all its buffers. -/
theorem exists_summary_of_generated
    (generated : spec.generateInOrder workers order = .ok table) :
    ∃ summary,
      TableSummary.of table = .ok summary ∧
        summary.byteSize =
          (table.columns.toList.map fun column =>
            column.data.byteSize).foldr (· + ·) 0 := by
  have columns := (columns_of_generated generated).2
  rcases mapM_summaries fun column member => (columns column member).2.2 with
    ⟨summaries, observed, byteSizes⟩
  refine ⟨⟨table.rowCount, summaries⟩, ?_, ?_⟩
  · rw [TableSummary.of, observed]
    rfl
  · rw [TableSummary.byteSize, byteSizes]

/-- A generated table has a summary, and every store takes it and accounts for it. -/
theorem handOff_of_generated
    (generated : spec.generateInOrder workers order = .ok table) :
    ∃ summary,
      TableSummary.of table = .ok summary ∧
        ∀ store,
          ∃ handle after,
            (HostStore.handOff table).run.run store = (.ok handle, after) ∧
              after.tableColumns? handle = some table.columns.toList ∧
                after.residentBytes =
                  store.residentBytes +
                    (summary.byteSize +
                      table.columnCount *
                        (4 * ((table.rowCount + 31) / 32))) := by
  rcases columns_of_generated generated with ⟨-, columns⟩
  have sameRows :=
    fun column member => (columns column member).1
  have valid :=
    fun column member => (columns column member).2.1
  rcases exists_summary_of_generated generated with ⟨summary, observed, byteSize⟩
  refine ⟨summary, observed, ?_⟩
  intro store
  refine
    ⟨store.tables.size, store.withTable table.columns.toList,
      HostStore.handOff_run valid sameRows store,
      HostStore.tableColumns?_withTable store _, ?_⟩
  have resident :=
    store.residentBytes_withColumns table.columns.toList
  rw [sum_columnBytes sameRows, ← byteSize] at resident
  exact resident

/--
A request that passes all checks and asks for fixed-width columns only gives a
table, as long as the columns can be addressed.
-/
theorem exists_generated_of_fixed
    {outline : Outline}
    (small : spec.columnCount.toNat ≤ largestCount / 2)
    (outlined : spec.outline = .ok outline)
    (addressable :
      ∀ type ∈ outline.types,
        ∃ fixed,
          type = .fixed fixed ∧ valuesFit fixed outline.rows = true)
    (workers : Nat) :
    ∃ table, spec.generate workers = .ok table := by
  rcases exists_plan_of_outline outlined outline.rows with ⟨plan, planned⟩
  have generated := generate_mapError spec small workers
  cases inTurn : spec.generateInTurn with
  | ok table =>
      rw [inTurn, mapError_eq_ok_iff] at generated
      exact ⟨table, generated⟩
  | error error =>
      rcases (generateInTurn_eq_error_iff outlined error).1 inTurn with
        ⟨place, inside, cause, failed, -⟩
      rcases addressable _ (List.getElem_mem inside) with ⟨fixed, type, fit⟩
      rw [buildColumnAt, type] at failed
      rcases exists_buildColumn_fixed planned fit (Engine.seeded _) with
        ⟨column, built⟩
      cases failed.symm.trans built

end TableSpec

namespace Command

/-- A request is refused over its file or because it names no kinds. -/
theorem toSpec_eq_error
    {request : Request}
    {read : Reader}
    {error : Error}
    (refused : request.toSpec read = .error error) :
    (∃ path cause, error = .specFile path cause) ∨ error = .noTypes := by
  rw [Request.toSpec, bind_eq_error_iff] at refused
  rcases refused with unsuitable | ⟨spec, -, noTypes⟩
  · unfold Request.startingSpec at unsuitable
    split at unsuitable
    · rcases (mapError_eq_error_iff _ _ _).1 unsuitable with ⟨cause, -, rfl⟩
      exact .inl ⟨_, cause, rfl⟩
    · cases unsuitable
  · simp only at noTypes
    split at noTypes
    · cases noTypes
      exact .inr rfl
    · cases noTypes

theorem ofTable_of_generated
    {spec : TableSpec}
    {workers : Nat}
    {order : List Nat}
    {table : Table}
    (generated : spec.generateInOrder workers order = .ok table)
    (seed : UInt32)
    (asked : Nat) :
    ∃ report, Report.ofTable seed asked table = .ok report := by
  rcases TableSpec.handOff_of_generated generated with
    ⟨summary, summaryEqual, stored⟩
  rcases stored .empty with ⟨handle, after, handedOver, -⟩
  rw [Report.ofTable, summaryEqual, handedOver]
  exact ⟨_, rfl⟩

/-- A request fails before or while its table is generated, or not at all. -/
theorem run_eq_error
    {request : Request}
    {read : Reader}
    {processors : Nat}
    {error : Error}
    (failed : request.run read processors = .error error) :
    (∃ path cause, error = .specFile path cause) ∨
      error = .noTypes ∨
        ∃ cause, error = .generate cause := by
  simp only [Request.run, bind_eq_error_iff, mapError_eq_error_iff,
    mapError_eq_ok_iff] at failed
  rcases failed with refused | ⟨spec, -, ⟨cause, -, rfl⟩ | ⟨table, generated, unreported⟩⟩
  · rcases toSpec_eq_error refused with specFile | noTypes
    · exact .inl specFile
    · exact .inr (.inl noTypes)
  · exact .inr (.inr ⟨cause, rfl⟩)
  · rcases ofTable_of_generated generated spec.seed _ with ⟨report, reported⟩
    cases unreported.symm.trans reported

end Command

/--
Every generated table has the kinds that were asked for and the same rows in
each column, it can be summed up, and any store takes it: the columns are found
again under the handle, and the store grows by the bytes of the summary and of
one bitmap for each column.  So no request fails when its table is handed over.
-/
theorem generated_tables_are_stored :
    (∀ (spec : TableSpec) workers order table,
      spec.generateInOrder workers order = .ok table →
        spec.expandedTypes = .ok table.semanticTypes ∧
          (∀ column ∈ table.columns.toList,
            column.rowCount = table.rowCount) ∧
          ∃ summary,
            TableSummary.of table = .ok summary ∧
              ∀ store,
                ∃ handle after,
                  (HostStore.handOff table).run.run store =
                      (.ok handle, after) ∧
                    after.tableColumns? handle = some table.columns.toList ∧
                      after.residentBytes =
                        store.residentBytes +
                          (summary.byteSize +
                            table.columnCount *
                              (4 * ((table.rowCount + 31) / 32)))) ∧
      ∀ (request : Command.Request) read processors fault,
        request.run read processors ≠ .error (.store fault) := by
  constructor
  · intro spec workers order table generated
    rcases TableSpec.columns_of_generated generated with ⟨types, columns⟩
    exact
      ⟨types, fun column member => (columns column member).1,
        TableSpec.handOff_of_generated generated⟩
  · intro request read processors fault failed
    rcases Command.run_eq_error failed with ⟨_, _, other⟩ | other | ⟨_, other⟩
    · cases other
    · cases other
    · cases other

/-- Two workers share three columns, and the empty store takes the table. -/
theorem generated_tables_are_stored_three :
    let spec : TableSpec :=
      { types := [.fixed .int32, .fixed .bool]
        columnCount := 3
        tableBytes := 100
        seed? := none
        params := .standard }
    ∃ table summary handle after,
      spec.generate 2 = .ok table ∧
        TableSummary.of table = .ok summary ∧
          (HostStore.handOff table).run.run .empty = (.ok handle, after) ∧
            after.tableColumns? handle = some table.columns.toList := by
  intro spec
  have outlined :
      spec.outline =
        .ok ⟨[.fixed .int32, .fixed .bool, .fixed .int32], 11⟩ := by
    show TableSpec.outline ⟨[.fixed .int32, .fixed .bool], 3, 100, none, .standard⟩ = _
    rfl
  have small : spec.columnCount.toNat ≤ largestCount / 2 := by decide
  rcases TableSpec.exists_generated_of_fixed small outlined (by simp; decide) 2 with
    ⟨table, generated⟩
  rcases (generated_tables_are_stored.1 spec 2 _ table generated).2.2 with
    ⟨summary, summaryEqual, stored⟩
  rcases stored .empty with ⟨handle, after, handedOver, found, -⟩
  exact
    ⟨table, summary, handle, after, generated, summaryEqual, handedOver, found⟩

end SyntheticTable
