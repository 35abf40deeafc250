import SyntheticTable.Column
import SyntheticTable.Build.Error

/-!
# String columns under construction

Bytes, offsets and validity of the records appended so far, for a number of
rows fixed at the start.  A record is appended from outside, copied from
another column, or repeated from the column itself; the bytes of a null record
are kept as well.

Offsets are signed words of 32 bits, so appending fails as soon as the bytes
can no longer be counted in one.
-/

namespace SyntheticTable

/-- A string column under construction. -/
structure StringColumn where
  chars : Array UInt8
  offsets : Array Int32
  mask : NullBitmap

namespace StringColumn

/-- The column without records, for a number of rows. -/
def start (rows : Nat) : StringColumn where
  chars := #[]
  offsets := #[0]
  mask := .allValid rows

/-- How many records have been appended. -/
def count (column : StringColumn) : Nat :=
  column.offsets.size - 1

/-- The offset at a place. -/
def offset (column : StringColumn) (place : Nat) : Nat :=
  (column.offsets.getD place 0).toInt.toNat

/-- The bytes of a record. -/
def record (column : StringColumn) (index : Nat) : Array UInt8 :=
  column.chars.extract (column.offset index) (column.offset (index + 1))

/-- Puts bytes behind those of the records. -/
def extend : StringColumn → (bytes : Array UInt8) → StringColumn
  | ⟨chars, offsets, mask⟩, bytes => ⟨chars ++ bytes, offsets, mask⟩

/-- Ends a record behind all bytes, which have to be counted by an offset. -/
def pushOffset : StringColumn → Except BuildError StringColumn
  | ⟨chars, offsets, mask⟩ =>
      if chars.size < twoTo 31 then
        .ok ⟨chars, offsets.push (.ofNat chars.size), mask⟩
      else
        .error (.textOverflow chars.size)

/-- Makes a row null unless it is valid. -/
def settle : StringColumn → (row : Nat) → (valid : Bool) → StringColumn
  | column, _, true => column
  | ⟨chars, offsets, mask⟩, row, false => ⟨chars, offsets, mask.clear row⟩

/-- Appends a record and settles its validity last. -/
def append
    (column : StringColumn)
    (record : Array UInt8)
    (valid : Bool) :
    Except BuildError StringColumn :=
  let row := column.count
  (column.extend record).pushOffset.map (·.settle row valid)

/-- Appends a copy of a record of another column; its validity is settled first. -/
def copyFrom
    (column source : StringColumn)
    (index : Nat) :
    Except BuildError StringColumn :=
  let row := column.count
  let settled := column.settle row (source.mask.bit index)
  (settled.extend (source.record index)).pushOffset

/-- Appends a copy of a record of the column itself; its validity is settled first. -/
def repeatRecord
    (column : StringColumn)
    (index : Nat) :
    Except BuildError StringColumn :=
  let row := column.count
  let settled := column.settle row (column.mask.bit index)
  (settled.extend (settled.record index)).pushOffset

/-- Appends copies of a record of the column itself. -/
def repeatTimes
    (column : StringColumn)
    (index : Nat) :
    Nat → Except BuildError StringColumn
  | 0 => .ok column
  | times + 1 =>
      match column.repeatRecord index with
      | .error error => .error error
      | .ok longer => longer.repeatTimes index times

/-- The column as it is handed over. -/
def toColumn (column : StringColumn) : Column where
  data := .string column.chars column.offsets
  mask := column.mask

end StringColumn

end SyntheticTable
