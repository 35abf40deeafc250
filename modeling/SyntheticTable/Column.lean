import SyntheticTable.NullBitmap
import SyntheticTable.Value

/-!
# Columns

A column is a buffer of records together with a null bitmap.  The buffer is a
sequence of values of one fixed-width kind, or for strings a sequence of bytes
with an offset table, where record `i` lies between the offsets `i` and
`i + 1`.

Nothing here forces the two parts to agree, nor the offsets to make sense: a
column may come from outside, and `Store` decides which ones it takes.  So
reading a record can fail, and every function that reads one says so.
-/

namespace SyntheticTable

/-- The records of a column. -/
inductive ColumnData where
  | fixed (type : FixedType) (values : Array type.Value)
  | string (chars : Array UInt8) (offsets : Array Int32)

namespace ColumnData

/-- The kind of the records. -/
def semanticType : ColumnData → SemanticType
  | fixed type _ => .fixed type
  | string _ _ => .string

/-- How many records there are. -/
def count : ColumnData → Nat
  | fixed _ values => values.size
  | string _ offsets => offsets.size - 1

/-- The bytes between two offsets, if the offsets lie in order inside. -/
def slice? (chars : Array UInt8) (start stop : Int32) : Option (List UInt8) :=
  if 0 ≤ start.toInt ∧ start.toInt ≤ stop.toInt ∧
      stop.toInt ≤ (chars.size : Int) then
    some (chars.extract start.toInt.toNat stop.toInt.toNat).toList
  else
    none

/-- The bytes of one record, if the buffer holds it. -/
def record? : ColumnData → Nat → Option (List UInt8)
  | fixed type values, row => values[row]?.map type.record
  | string chars offsets, row =>
      match offsets[row]?, offsets[row + 1]? with
      | some start, some stop => slice? chars start stop
      | _, _ => none

/-- How many bytes the buffer takes, offsets included. -/
def byteSize : ColumnData → Nat
  | fixed type values => values.size * type.width
  | string chars offsets => chars.size + offsets.size * 4

end ColumnData

/-- A column could not be read at a row. -/
inductive AccessFault where
  /-- The null bitmap does not cover the row. -/
  | row (error : RowOutOfBounds)
  /-- The buffer does not hold the record of the row. -/
  | record
deriving DecidableEq, Repr

/-- Records and their validity. -/
structure Column where
  data : ColumnData
  mask : NullBitmap

namespace Column

/-- The kind of the records. -/
def semanticType (column : Column) : SemanticType :=
  column.data.semanticType

/-- How many rows the column has. -/
def rowCount (column : Column) : Nat :=
  column.mask.rows

/-- How many rows are null. -/
def nullCount (column : Column) : Nat :=
  column.mask.nullCount

/-- Whether a row is valid. -/
def isValid? (column : Column) (row : Nat) : Except AccessFault Bool :=
  (column.mask.isValid? row).mapError .row

/-- The bytes of one record. -/
def record? (column : Column) (row : Nat) : Except AccessFault (List UInt8) :=
  match column.data.record? row with
  | some record => .ok record
  | none => .error .record

/--
Whether two rows agree in validity and record.  The records are read only when
the validities agree.
-/
def rowsEqual?
    (column : Column)
    (left right : Nat) :
    Except AccessFault Bool := do
  let leftValid ← column.isValid? left
  let rightValid ← column.isValid? right
  if leftValid = rightValid then
    let leftRecord ← column.record? left
    let rightRecord ← column.record? right
    return leftRecord == rightRecord
  else
    return false

end Column

/-- Columns in order, with the number of rows they are meant to have. -/
structure Table where
  columns : Array Column
  rowCount : Nat

namespace Table

/-- The kinds of the columns. -/
def semanticTypes (table : Table) : List SemanticType :=
  table.columns.toList.map Column.semanticType

/-- How many columns there are. -/
def columnCount (table : Table) : Nat :=
  table.columns.size

end Table

end SyntheticTable
