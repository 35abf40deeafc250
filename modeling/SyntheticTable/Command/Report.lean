import SyntheticTable.Command.Request
import SyntheticTable.Summary

/-!
# Reports

What a run has to tell: the seed, the number of workers, the time it took, how
much the store holds after the table was handed over, and the observed shape
of the table.
-/

namespace SyntheticTable.Command

/-- What a run has to tell. -/
structure Report where
  seed : UInt32
  workers : Nat
  elapsedMilliseconds : Nat
  residentBytes : Nat
  table : TableSummary
deriving DecidableEq, Repr

namespace Report

/-- The line of one column. -/
def columnLine (index : Nat) (column : ColumnSummary) : String :=
  s!"  [{index}] {column.semanticType.name}: nulls={column.nullCount}"
    ++ s!" distinct={column.distinctCount} runs={column.runCount}"
    ++ s!" max_run={column.longestRun} bytes={column.byteSize}"

/-- The line of the whole table. -/
def tableLine (report : Report) : String :=
  s!"{report.table.rowCount} rows x {report.table.columnCount} columns,"
    ++ s!" {report.table.byteSize} bytes ({report.residentBytes} resident),"
    ++ s!" seed {report.seed.toNat}, {report.workers} threads,"
    ++ s!" {report.elapsedMilliseconds} ms"

/-- The lines of the report. -/
def lines (report : Report) : List String :=
  report.tableLine ::
    report.table.columns.mapIdx columnLine

/-- The report as a JSON document. -/
def toJson (report : Report) : Json :=
  .object
    [("seed", .number report.seed.toNat),
      ("threads", .number report.workers),
      ("elapsed_ms", .number report.elapsedMilliseconds),
      ("resident_bytes", .number report.residentBytes),
      ("table", report.table.toJson)]

/-- The report in a format. -/
def render (report : Report) : Format → String
  | .text => "\n".intercalate report.lines
  | .json => report.toJson.pretty

/--
Observes a generated table, hands it to a fresh store and tells about both.
-/
def ofTable
    (seed : UInt32)
    (workers : Nat)
    (table : Table) :
    Except Error Report := do
  let summary ← (TableSummary.of table).mapError .unreadableColumn
  let (handle, store) := (HostStore.handOff table).run.run .empty
  let _ ← handle.mapError .store
  return {
    seed
    workers
    elapsedMilliseconds := 0
    residentBytes := store.residentBytes
    table := summary }

end Report

/--
Carries out a request.  Without a number of workers in the request there is one
for each processor, and in any case at least one.
-/
def Request.run
    (request : Request)
    (read : Reader)
    (processors : Nat) :
    Except Error Report := do
  let spec ← request.toSpec read
  let workers :=
    workerCount ((request.workers?.map UInt64.toNat).getD processors)
  let table ← (spec.generate workers).mapError .generate
  Report.ofTable spec.seed workers table

end SyntheticTable.Command
