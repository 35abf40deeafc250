import Mathlib.Algebra.BigOperators.Ring.List
import SyntheticTable.Proofs.GeneratedTable
import SyntheticTable.Proofs.RowBudget
import SyntheticTable.Proofs.ValidatedColumn

/-!
# The byte budget is kept

The rows of a table are as many as its bytes allow by the budget of a row,
which is counted over the kinds before any column is built.  What the columns
take is measured over their buffers.  For kinds of fixed width the two are the
same: the table takes no more than the bytes that were asked for, and one more
row would take too many.  Texts are only estimated, so a table with strings
takes what its texts and their offsets happen to take.
-/

namespace SyntheticTable

/-- The bytes that a row takes in the columns of fixed width. -/
def fixedBytes (types : List SemanticType) : Nat :=
  (types.map fun type => type.width?.getD 0).sum

/-- The bytes of the texts of some rows and of their offsets, in a column of strings. -/
def ColumnData.textBytes (rows : Nat) : ColumnData → Nat
  | fixed _ _ => 0
  | string chars _ => chars.size + 4 * (rows + 1)

/-- Kinds of fixed width are budgeted for the bytes that they take. -/
theorem budgetedBytes_of_fixed
    {types : List SemanticType}
    (allFixed : ∀ type ∈ types, ∃ fixed, type = .fixed fixed) :
    budgetedBytes types = fixedBytes types := by
  unfold budgetedBytes fixedBytes
  congr 1
  refine List.map_congr_left ?_
  intro type member
  rcases allFixed type member with ⟨fixed, rfl⟩
  rfl

theorem ColumnData.textBytes_of_fixed
    {data : ColumnData}
    {fixed : FixedType}
    (type : data.semanticType = .fixed fixed)
    (rows : Nat) :
    data.textBytes rows = 0 := by
  cases data with
  | fixed => rfl
  | string => cases type

namespace Column

variable {column : Column}

theorem size_offsets_of_validate
    {chars : Array UInt8}
    {offsets : Array Int32}
    (valid : column.validate = .ok ())
    (data : column.data = .string chars offsets) :
    offsets.size = column.rowCount + 1 := by
  rcases ((validate_eq_ok_iff column).1 valid).2 chars offsets data with
    ⟨records, count, cuts⟩
  have lengths := congrArg List.length cuts.offsets
  rw [List.length_map, List.length_map, length_runningTotals, count,
    Array.length_toList] at lengths
  exact lengths

/-- A column that passes the checks takes the width of its kind for each row, or its texts. -/
theorem byteSize_of_validate
    (valid : column.validate = .ok ()) :
    column.data.byteSize =
      column.rowCount * column.semanticType.width?.getD 0 +
        column.data.textBytes column.rowCount := by
  have counted := ((validate_eq_ok_iff column).1 valid).1
  cases data : column.data with
  | fixed type values =>
      rw [semanticType, data, ← counted, data]
      rfl
  | string chars offsets =>
      have size := size_offsets_of_validate valid data
      rw [semanticType, data, ColumnData.byteSize, ColumnData.textBytes, size,
        Nat.mul_comm 4]
      exact (Nat.zero_add _).symm

end Column

/-- Columns with the same rows take the widths of their kinds for each row, and their texts. -/
theorem sum_byteSize
    {columns : List Column}
    {rows : Nat}
    (valid : ∀ column ∈ columns, column.validate = .ok ())
    (sameRows : ∀ column ∈ columns, column.rowCount = rows) :
    (columns.map fun column => column.data.byteSize).sum =
      rows * fixedBytes (columns.map Column.semanticType) +
        (columns.map fun column => column.data.textBytes rows).sum := by
  have each :
      (columns.map fun column => column.data.byteSize) =
        columns.map fun column =>
          rows * column.semanticType.width?.getD 0 +
            column.data.textBytes rows := by
    refine List.map_congr_left ?_
    intro column member
    rw [Column.byteSize_of_validate (valid column member),
      sameRows column member]
  rw [each, List.sum_map_add, List.sum_map_mul_left, fixedBytes, List.map_map]
  rfl

namespace TableSpec

variable
    {spec : TableSpec}
    {workers : Nat}
    {order : List Nat}
    {table : Table}

/-- As many rows as bytes allow leave less than the bytes of one row. -/
theorem budget_of_rowCount
    {rowBudget : Nat}
    (budgeted : spec.averageRowBytes = .ok rowBudget)
    (counted : spec.rowCount = .ok table.rowCount)
    (positive : 0 < rowBudget) :
    table.rowCount * rowBudget ≤ spec.tableBytes.toNat ∧
      spec.tableBytes.toNat < table.rowCount * rowBudget + rowBudget := by
  have rows := (rowCount_of_averageRowBytes budgeted).symm.trans counted
  rw [← Except.ok.inj rows]
  constructor
  · exact Nat.div_mul_le_self _ _
  · exact Nat.lt_div_mul_add positive

end TableSpec

/--
A generated table has as many rows as were counted up front.  Its summary
reports the width of each column of fixed width for every row, and for each
column of strings its characters and one offset more than there are rows.

With some column, and all of fixed width, these are the budgeted bytes of its
rows: no more than were asked for, and less than a row below that.
-/
theorem generated_tables_keep_budget
    {spec : TableSpec}
    {workers : Nat}
    {order : List Nat}
    {table : Table}
    (generated : spec.generateInOrder workers order = .ok table) :
    ∃ types rowBudget summary,
      spec.expandedTypes = .ok types ∧
        spec.averageRowBytes = .ok rowBudget ∧
        spec.rowCount = .ok table.rowCount ∧
        TableSummary.of table = .ok summary ∧
        summary.byteSize =
          table.rowCount * fixedBytes types +
            (table.columns.toList.map fun column =>
              column.data.textBytes table.rowCount).sum ∧
        (0 < spec.columnCount.toNat →
          (∀ type ∈ types, ∃ fixed, type = .fixed fixed) →
            summary.byteSize = table.rowCount * rowBudget ∧
              summary.byteSize ≤ spec.tableBytes.toNat ∧
                spec.tableBytes.toNat < summary.byteSize + rowBudget) := by
  rcases (TableSpec.outline_eq_ok_iff spec _).1
      (TableSpec.outline_of_generated generated) with
    ⟨expanded, implemented, -, counted⟩
  have columns := (TableSpec.columns_of_generated generated).2
  rcases TableSpec.exists_summary_of_generated generated with
    ⟨summary, summed, byteSize⟩
  have budgeted := TableSpec.averageRowBytes_of_expandedTypes expanded implemented
  have measured :
      summary.byteSize =
        table.rowCount * fixedBytes table.semanticTypes +
          (table.columns.toList.map fun column =>
            column.data.textBytes table.rowCount).sum := by
    rw [byteSize]
    exact
      sum_byteSize
        (fun column member => (columns column member).2.1)
        fun column member => (columns column member).1
  refine
    ⟨table.semanticTypes, _, summary, expanded, budgeted, counted, summed, measured, ?_⟩
  intro someColumn allFixed
  have noTexts :
      (table.columns.toList.map fun column =>
        column.data.textBytes table.rowCount).sum = 0 := by
    apply List.sum_eq_zero
    intro bytes member
    rcases List.mem_map.1 member with ⟨column, columnMember, rfl⟩
    rcases allFixed _ (List.mem_map_of_mem columnMember) with ⟨fixed, type⟩
    exact ColumnData.textBytes_of_fixed type _
  have asBudgeted :
      summary.byteSize = table.rowCount * budgetedBytes table.semanticTypes := by
    rw [measured, noTexts, Nat.add_zero, budgetedBytes_of_fixed allFixed]
  have positive : 0 < budgetedBytes table.semanticTypes := by
    refine budgetedBytes_pos implemented ?_
    rw [TableSpec.length_expandedTypes expanded]
    exact someColumn
  rw [asBudgeted]
  exact ⟨rfl, TableSpec.budget_of_rowCount budgeted counted positive⟩

/--
Three columns with nine bytes a row take 99 of the hundred bytes that were
asked for.
-/
theorem generated_tables_keep_budget_three :
    let spec : TableSpec :=
      { types := [.fixed .int32, .fixed .bool]
        columnCount := 3
        tableBytes := 100
        seed? := none
        params := .standard }
    ∃ table summary,
      spec.generate 2 = .ok table ∧
        TableSummary.of table = .ok summary ∧
          summary.byteSize = 99 ∧
            99 ≤ spec.tableBytes.toNat ∧
              spec.tableBytes.toNat < 99 + 9 := by
  intro spec
  have outlined :
      spec.outline =
        .ok ⟨[.fixed .int32, .fixed .bool, .fixed .int32], 11⟩ := by
    show TableSpec.outline ⟨[.fixed .int32, .fixed .bool], 3, 100, none, .standard⟩ = _
    rfl
  have small : spec.columnCount.toNat ≤ largestCount / 2 := by decide
  rcases TableSpec.exists_generated_of_fixed small outlined (by simp; decide) 2 with
    ⟨table, generated⟩
  rcases generated_tables_keep_budget generated with
    ⟨types, rowBudget, summary, expanded, budgeted, -, summed, -, kept⟩
  have listed :
      spec.expandedTypes =
        .ok [.fixed .int32, .fixed .bool, .fixed .int32] := by
    rfl
  have nineBytes : spec.averageRowBytes = .ok 9 := by rfl
  cases listed.symm.trans expanded
  cases nineBytes.symm.trans budgeted
  have settled :=
    Except.ok.inj ((TableSpec.outline_of_generated generated).symm.trans outlined)
  have rows : table.rowCount = 11 := congrArg TableSpec.Outline.rows settled
  rcases kept (by decide) (by simp) with ⟨asBudgeted, within, tight⟩
  rw [rows] at asBudgeted
  rw [asBudgeted] at within tight
  exact ⟨table, summary, generated, summed, asBudgeted, within, tight⟩

end SyntheticTable
