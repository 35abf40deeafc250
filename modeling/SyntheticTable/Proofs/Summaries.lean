import Mathlib.Data.Finset.Card
import SyntheticTable.Proofs.MaximalRuns

/-!
# Summaries of columns that hold rows

A column that holds rows can be summed up: every row is read on the way, and
none of these readings fails.  The number of different records that is counted
with a set is that of the records of the valid rows.
-/

namespace SyntheticTable

/-- The records of the valid rows. -/
def validRecords (rows : List ColumnRow) : Finset (List UInt8) :=
  ((rows.filter ColumnRow.valid).map ColumnRow.record).toFinset

theorem mem_validRecords_iff
    {rows : List ColumnRow}
    {record : List UInt8} :
    record ∈ validRecords rows ↔ ⟨record, true⟩ ∈ rows := by
  simp only [validRecords, List.mem_toFinset, List.mem_map, List.mem_filter]
  constructor
  · rintro ⟨⟨_, _⟩, ⟨member, rfl⟩, rfl⟩
    exact member
  · intro member
    exact ⟨_, ⟨member, rfl⟩, rfl⟩

theorem card_validRecords_le_countP (rows : List ColumnRow) :
    (validRecords rows).card ≤ rows.countP ColumnRow.valid := by
  refine (List.toFinset_card_le _).trans ?_
  rw [List.length_map, List.countP_eq_length_filter]

theorem card_validRecords_le (rows : List ColumnRow) :
    (validRecords rows).card ≤ rows.length :=
  (card_validRecords_le_countP rows).trans List.countP_le_length

/-- Rows that all occur among others have no record that the others lack. -/
theorem card_validRecords_le_of_subset
    {rows others : List ColumnRow}
    (subset : rows ⊆ others) :
    (validRecords rows).card ≤ (validRecords others).card := by
  refine Finset.card_le_card ?_
  intro record member
  exact
    mem_validRecords_iff.2 (subset (mem_validRecords_iff.1 member))

/-- A set of hashed elements is as large as the finite set of its elements. -/
theorem size_eq_card
    {set : Std.HashSet (List UInt8)}
    {elements : Finset (List UInt8)}
    (sameElements : ∀ element, element ∈ set ↔ element ∈ elements) :
    set.size = elements.card := by
  have distinct : set.toList.Nodup := by
    refine Std.HashSet.distinct_toList.imp ?_
    intro left right different
    exact ne_of_beq_false different
  have listed : set.toList.toFinset = elements := by
    ext element
    rw [List.mem_toFinset, Std.HashSet.mem_toList, sameElements]
  rw [← listed, List.toFinset_card_of_nodup distinct, Std.HashSet.length_toList]

namespace Column.Holds

variable
    {column : Column}
    {rows : List ColumnRow}

/-- The records that are collected are those of the valid rows that remain. -/
theorem validRecordsFrom
    (holds : column.Holds rows)
    (row : Nat)
    (records : Std.HashSet (List UInt8)) :
    ∃ all,
      column.validRecordsFrom row records = .ok all ∧
        ∀ record,
          record ∈ all ↔
            record ∈ records ∨ ⟨record, true⟩ ∈ rows.drop row := by
  fun_induction Column.validRecordsFrom column row records with
  | case1 row records inside valid fault unreadable =>
      rcases holds.exists_row inside with ⟨content, -, -, readable⟩
      cases unreadable.symm.trans readable
  | case2 row records inside valid first readable inductionHypothesis =>
      rcases inductionHypothesis with ⟨all, collected, members⟩
      rcases holds.exists_row inside with ⟨content, found, -, read⟩
      rcases List.getElem?_eq_some_iff.1 found with ⟨inRows, rfl⟩
      cases readable.symm.trans read
      have isValid : rows[row].valid = true := (holds.bit found).symm.trans valid
      refine ⟨all, collected, ?_⟩
      intro record
      have same :
          (⟨record, true⟩ : ColumnRow) = rows[row] ↔ rows[row].record = record := by
        rw [← isValid]
        constructor
        · rintro equal
          rw [← equal]
        · rintro rfl
          rfl
      rw [members, List.drop_eq_getElem_cons inRows, List.mem_cons, same,
        Std.HashSet.mem_insert, beq_iff_eq]
      exact or_assoc.trans or_left_comm
  | case3 row records inside invalid inductionHypothesis =>
      rcases inductionHypothesis with ⟨all, collected, members⟩
      rcases holds.exists_row inside with ⟨content, found, -, -⟩
      rcases List.getElem?_eq_some_iff.1 found with ⟨inRows, rfl⟩
      have isNull : rows[row].valid ≠ true := by
        rw [← holds.bit found]
        exact invalid
      refine ⟨all, collected, ?_⟩
      intro record
      have other : (⟨record, true⟩ : ColumnRow) ≠ rows[row] := by
        intro equal
        exact isNull (equal ▸ rfl)
      rw [members, List.drop_eq_getElem_cons inRows, List.mem_cons]
      simp only [other, false_or]
  | case4 row records outside =>
      refine ⟨records, rfl, ?_⟩
      intro record
      have noMore : rows.drop row = [] := by
        refine List.drop_eq_nil_of_le ?_
        rw [← holds.rowCount]
        omega
      simp [noMore]

/-- The records counted are those of the valid rows, each once. -/
theorem distinctCount?
    (holds : column.Holds rows) :
    column.distinctCount? = .ok (validRecords rows).card := by
  rcases holds.validRecordsFrom 0 ∅ with ⟨all, collected, members⟩
  have size : all.size = (validRecords rows).card := by
    refine size_eq_card ?_
    intro record
    rw [members, mem_validRecords_iff, List.drop_zero]
    simp
  rw [Column.distinctCount?, collected, ← size]
  rfl

theorem summary_eq
    (holds : column.Holds rows) :
    ColumnSummary.of column =
      .ok
        { semanticType := column.semanticType
          rowCount := column.rowCount
          nullCount := column.nullCount
          distinctCount := (validRecords rows).card
          longestRun := ((maximalRuns rows).map List.length).foldl max 0
          runCount := ((maximalRuns rows).map List.length).length
          byteSize := column.data.byteSize } := by
  rw [ColumnSummary.of, holds.distinctCount?, holds.runLengths?]
  rfl

theorem summary
    (holds : column.Holds rows) :
    ∃ summary,
      ColumnSummary.of column = .ok summary ∧
        summary.distinctCount = (validRecords rows).card ∧
          summary.byteSize = column.data.byteSize :=
  ⟨_, holds.summary_eq, rfl, rfl⟩

end Column.Holds

end SyntheticTable
