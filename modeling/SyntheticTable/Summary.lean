import Std.Data.HashSet.Basic
import SyntheticTable.Column
import SyntheticTable.Json

/-!
# Summaries

The observed shape of columns and tables: how many rows are null, how many
different records the valid rows hold, and how the rows fall into maximal runs
of equal rows.

A run is grown by comparing each row with the first row of the run.  Where the
column can be read everywhere, this is the same as comparing neighbours.
-/

namespace SyntheticTable

namespace Column

/--
The lengths of the runs from `row` on, after the given lengths, where the
current run has started at `start`.
-/
def runLengthsFrom
    (column : Column)
    (start row : Nat)
    (lengths : Array Nat) :
    Except AccessFault (Array Nat) :=
  if row < column.rowCount then
    match column.rowsEqual? start row with
    | .error fault => .error fault
    | .ok true => column.runLengthsFrom start (row + 1) lengths
    | .ok false =>
        column.runLengthsFrom row (row + 1) (lengths.push (row - start))
  else
    .ok (lengths.push (row - start))
termination_by column.rowCount - row

/-- The lengths of the maximal runs of equal rows, in row order. -/
def runLengths? (column : Column) : Except AccessFault (List Nat) :=
  if column.rowCount = 0 then .ok []
  else (column.runLengthsFrom 0 1 #[]).map Array.toList

/-- The records of the valid rows from `row` on, added to a set. -/
def validRecordsFrom
    (column : Column)
    (row : Nat)
    (records : Std.HashSet (List UInt8)) :
    Except AccessFault (Std.HashSet (List UInt8)) :=
  if row < column.rowCount then
    if column.mask.bit row then
      match column.record? row with
      | .error fault => .error fault
      | .ok record => column.validRecordsFrom (row + 1) (records.insert record)
    else
      column.validRecordsFrom (row + 1) records
  else
    .ok records
termination_by column.rowCount - row

/-- How many different records the valid rows hold. -/
def distinctCount? (column : Column) : Except AccessFault Nat :=
  (column.validRecordsFrom 0 ∅).map Std.HashSet.size

end Column

/-- The observed shape of a column. -/
structure ColumnSummary where
  semanticType : SemanticType
  rowCount : Nat
  nullCount : Nat
  /-- How many different records the valid rows hold. -/
  distinctCount : Nat
  /-- The length of the longest maximal run. -/
  longestRun : Nat
  /-- How many maximal runs there are. -/
  runCount : Nat
  byteSize : Nat
deriving DecidableEq, Repr

namespace ColumnSummary

/-- Observes a column. -/
def of (column : Column) : Except AccessFault ColumnSummary := do
  let distinctCount ← column.distinctCount?
  let lengths ← column.runLengths?
  return {
    semanticType := column.semanticType
    rowCount := column.rowCount
    nullCount := column.nullCount
    distinctCount
    longestRun := lengths.foldl max 0
    runCount := lengths.length
    byteSize := column.data.byteSize }

/-- The share of rows that are null, zero for a column without rows. -/
def nullFraction (summary : ColumnSummary) : Float :=
  if summary.rowCount = 0 then 0
  else Float.ofNat summary.nullCount / Float.ofNat summary.rowCount

/-- The summary as a JSON document. -/
def toJson (summary : ColumnSummary) : Json :=
  .object
    [("semantic_type", .text summary.semanticType.name),
      ("num_rows", .number summary.rowCount),
      ("null_count", .number summary.nullCount),
      ("distinct_values", .number summary.distinctCount),
      ("max_run_length", .number summary.longestRun),
      ("runs", .number summary.runCount),
      ("byte_size", .number summary.byteSize)]

end ColumnSummary

/-- The observed shape of a table. -/
structure TableSummary where
  rowCount : Nat
  columns : List ColumnSummary
deriving DecidableEq, Repr

namespace TableSummary

/-- Observes a table. -/
def of (table : Table) : Except AccessFault TableSummary := do
  let columns ← table.columns.toList.mapM ColumnSummary.of
  return { rowCount := table.rowCount, columns }

/-- How many columns there are. -/
def columnCount (summary : TableSummary) : Nat :=
  summary.columns.length

/-- How many bytes the buffers of all columns take. -/
def byteSize (summary : TableSummary) : Nat :=
  (summary.columns.map ColumnSummary.byteSize).foldr (· + ·) 0

/-- The summary as a JSON document. -/
def toJson (summary : TableSummary) : Json :=
  .object
    [("num_rows", .number summary.rowCount),
      ("num_columns", .number summary.columnCount),
      ("byte_size", .number summary.byteSize),
      ("columns", .list (summary.columns.map ColumnSummary.toJson))]

end TableSummary

end SyntheticTable
