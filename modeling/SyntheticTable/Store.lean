import SyntheticTable.Column

/-!
# Column store

A store keeps columns and tables in host memory.  A column is taken only if it
holds one record for each row and its null bitmap has the words for them, and a
string column only if its offsets cut its bytes into records.  A table is made
of columns that were stored before and have the same number of rows.  Handles are
positions, so they stay good.

An operation that fails leaves behind what it stored before it failed.
-/

namespace SyntheticTable

/-- What is wrong with the offsets of a string column. -/
inductive OffsetFault where
  | firstNotZero
  | decreasing
  /-- The last offset is not the number of bytes. -/
  | lastNotTotal (last bytes : Nat)
deriving DecidableEq, Repr

/-- Why a store refuses a column or a table. -/
inductive StoreError where
  /-- The buffer does not hold one record for each row. -/
  | lengthMismatch (type : SemanticType) (records rows : Nat)
  /-- The null bitmap has not the words that the rows take. -/
  | bitmapSizeMismatch (words expected rows : Nat)
  | malformedOffsets (fault : OffsetFault)
  /-- A column differs in its number of rows from the first one. -/
  | rowCountMismatch (index rows expected : Nat)
  | unknownColumn (handle : Nat)
deriving DecidableEq, Repr

/-- The wording of a fault in the offsets. -/
def OffsetFault.message : OffsetFault → String
  | firstNotZero => "offsets must start at 0"
  | decreasing => "offsets must be non-decreasing"
  | lastNotTotal last bytes =>
      s!"final offset {last} does not match {bytes} bytes"

/-- The wording of the error. -/
def StoreError.message : StoreError → String
  | lengthMismatch type records rows =>
      s!"{type.name} column holds {records} values for {rows} rows"
  | bitmapSizeMismatch words expected rows =>
      s!"null bitmap has {words} words, expected {expected} for {rows} rows"
  | malformedOffsets fault => "malformed string offsets: " ++ fault.message
  | rowCountMismatch index rows expected =>
      s!"column {index} has {rows} rows, table has {expected}"
  | unknownColumn handle => s!"unknown column handle: {handle}"

/-- Whether no offset is greater than the next. -/
def isNonDecreasing : List Int32 → Bool
  | first :: second :: rest =>
      first.toInt ≤ second.toInt && isNonDecreasing (second :: rest)
  | _ => true

/-- Checks that offsets cut a number of bytes into records. -/
def checkOffsets (bytes : Nat) (offsets : List Int32) : Except OffsetFault Unit :=
  if offsets.head? ≠ some 0 then
    .error .firstNotZero
  else if !isNonDecreasing offsets then
    .error .decreasing
  else
    let last := (offsets.getLast?.getD 0).toInt.toNat
    if last = bytes then .ok () else .error (.lastNotTotal last bytes)

/-- Checks that records with offsets are cut by them. -/
def ColumnData.checkCuts : ColumnData → Except StoreError Unit
  | fixed _ _ => .ok ()
  | string chars offsets =>
      (checkOffsets chars.size offsets.toList).mapError .malformedOffsets

namespace Column

/-- Checks that the parts of a column agree. -/
def validate (column : Column) : Except StoreError Unit :=
  if column.data.count ≠ column.rowCount then
    .error (.lengthMismatch column.semanticType column.data.count column.rowCount)
  else if column.mask.words.size ≠ NullBitmap.wordsFor column.rowCount then
    .error
      (.bitmapSizeMismatch column.mask.words.size
        (NullBitmap.wordsFor column.rowCount) column.rowCount)
  else
    column.data.checkCuts

/-- A null bitmap always has the words that its rows take. -/
theorem validate_of_counted
    {column : Column}
    (counted : column.data.count = column.rowCount) :
    column.validate = column.data.checkCuts := by
  have words :
      column.mask.words.size = NullBitmap.wordsFor column.rowCount :=
    column.mask.size_words
  rw [validate, if_neg (not_not_intro counted), if_neg (not_not_intro words)]

end Column

/-- The columns and tables kept so far. -/
structure HostStore where
  columns : Array Column
  /-- For each table the handles of its columns. -/
  tables : Array (List Nat)

namespace HostStore

/-- The store that keeps nothing. -/
def empty : HostStore := ⟨#[], #[]⟩

/-- An operation on a store. -/
abbrev Operation := ExceptT StoreError (StateM HostStore)

/-- Takes a column and gives its handle. -/
def storeColumn (column : Column) : Operation Nat := do
  column.validate
  let store ← get
  set { store with columns := store.columns.push column }
  return store.columns.size

/--
Checks that handles from a position on are known and that their columns have
the expected number of rows, which is that of the first column if there is no
expectation yet.
-/
def checkHandles
    (store : HostStore) :
    (index : Nat) → (expected? : Option Nat) → List Nat → Except StoreError Unit
  | _, _, [] => .ok ()
  | index, expected?, handle :: rest =>
      match store.columns[handle]? with
      | none => .error (.unknownColumn handle)
      | some column =>
          let expected := expected?.getD column.rowCount
          if column.rowCount = expected then
            store.checkHandles (index + 1) (some expected) rest
          else
            .error (.rowCountMismatch index column.rowCount expected)

/-- Makes a table of stored columns and gives its handle. -/
def storeTable (handles : List Nat) : Operation Nat := do
  let store ← get
  store.checkHandles 0 none handles
  set { store with tables := store.tables.push handles }
  return store.tables.size

/-- Takes the columns of a table in order, then the table. -/
def handOff (table : Table) : Operation Nat := do
  let handles ← table.columns.toList.mapM storeColumn
  storeTable handles

/-- A stored column. -/
def column? (store : HostStore) (handle : Nat) : Option Column :=
  store.columns[handle]?

/-- The columns of a stored table in order. -/
def tableColumns? (store : HostStore) (handle : Nat) : Option (List Column) := do
  let handles ← store.tables[handle]?
  handles.mapM store.column?

/-- How many bytes all stored columns take, null bitmaps included. -/
def residentBytes (store : HostStore) : Nat :=
  (store.columns.toList.map fun column =>
    column.data.byteSize + column.mask.byteSize).foldr (· + ·) 0

end HostStore

end SyntheticTable
