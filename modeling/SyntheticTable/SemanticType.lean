import SyntheticTable.Text.Blank

/-!
# Semantic types

The logical kinds of column that a table may ask for.  A kind fixes how many
bytes one element is budgeted for and which values are drawn; how a column is
stored is a matter of its data.

Every kind has one written name.  Names are read back without regard to ASCII
case and to blanks at either end, and `boolean` is a second name of `bool`.
-/

namespace SyntheticTable

/-- The resolution of a timestamp or duration column. -/
inductive TimeUnit where
  | days
  | seconds
  | milliseconds
  | microseconds
  | nanoseconds
deriving DecidableEq, Repr

namespace TimeUnit

/-- All units, coarsest first. -/
def all : List TimeUnit :=
  [days, seconds, milliseconds, microseconds, nanoseconds]

/-- How many nanoseconds one tick of the unit lasts. -/
def nanosPerTick : TimeUnit → Nat
  | days => 86_400 * 1_000_000_000
  | seconds => 1_000_000_000
  | milliseconds => 1_000_000
  | microseconds => 1_000
  | nanoseconds => 1

/-- The unit's part of a type name. -/
def suffix : TimeUnit → String
  | days => "days"
  | seconds => "s"
  | milliseconds => "ms"
  | microseconds => "us"
  | nanoseconds => "ns"

/-- The unit with a suffix. -/
def ofSuffix? : String → Option TimeUnit
  | "days" => some days
  | "s" => some seconds
  | "ms" => some milliseconds
  | "us" => some microseconds
  | "ns" => some nanoseconds
  | _ => none

end TimeUnit

/-- The kinds whose elements all take the same number of bytes. -/
inductive FixedType where
  | bool
  | int8
  | int16
  | int32
  | int64
  | uint8
  | uint16
  | uint32
  | uint64
  | float32
  | float64
  /-- A point in time, as ticks since the Unix epoch. -/
  | timestamp (unit : TimeUnit)
  /-- An elapsed time, as ticks. -/
  | duration (unit : TimeUnit)
  | decimal32
  | decimal64
deriving DecidableEq, Repr

namespace FixedType

/-- All fixed-width kinds. -/
def all : List FixedType :=
  [bool, int8, int16, int32, int64, uint8, uint16, uint32, uint64,
      float32, float64]
    ++ TimeUnit.all.map timestamp
    ++ TimeUnit.all.map duration
    ++ [decimal32, decimal64]

/-- How many bytes one element takes. -/
def width : FixedType → Nat
  | bool | int8 | uint8 => 1
  | int16 | uint16 => 2
  | int32 | uint32 | float32 | decimal32 => 4
  | int64 | uint64 | float64 | decimal64 => 8
  | timestamp _ | duration _ => 8

/-- The written name. -/
def name : FixedType → String
  | bool => "bool"
  | int8 => "int8"
  | int16 => "int16"
  | int32 => "int32"
  | int64 => "int64"
  | uint8 => "uint8"
  | uint16 => "uint16"
  | uint32 => "uint32"
  | uint64 => "uint64"
  | float32 => "float32"
  | float64 => "float64"
  | timestamp unit => "timestamp_" ++ unit.suffix
  | duration unit => "duration_" ++ unit.suffix
  | decimal32 => "decimal32"
  | decimal64 => "decimal64"

end FixedType

/--
The logical kind of a column.

The last three kinds can be named, so that a request may mention them, but no
way of drawing their values is known.
-/
inductive SemanticType where
  | fixed (type : FixedType)
  | string
  | dictionary32
  | list
  | struct
deriving DecidableEq, Repr

/-- A text is not the name of a semantic type. -/
structure UnknownType where
  /-- The text as it was given, blanks and case included. -/
  text : String
deriving DecidableEq, Repr

/-- The wording of the error. -/
def UnknownType.message (error : UnknownType) : String :=
  "unknown semantic type: " ++ error.text

namespace SemanticType

/-- All kinds. -/
def all : List SemanticType :=
  FixedType.all.map fixed ++ [string, dictionary32, list, struct]

/-- The written name. -/
def name : SemanticType → String
  | fixed type => type.name
  | string => "string"
  | dictionary32 => "dictionary32"
  | list => "list"
  | struct => "struct"

/-- How many bytes one element takes, where all elements take the same. -/
def width? : SemanticType → Option Nat
  | fixed type => some type.width
  | _ => none

/--
How many bytes one element is budgeted for.  A string is estimated at a
four-byte offset, a four-byte length and six bytes of text.
-/
def averageBytes? : SemanticType → Option Nat
  | fixed type => some type.width
  | string => some (4 + 4 + 6)
  | _ => none

/-- Whether values of the kind can be drawn. -/
def isImplemented : SemanticType → Bool
  | fixed _ | string => true
  | _ => false

/-- The ticks of a temporal kind. -/
def timeUnit? : SemanticType → Option TimeUnit
  | fixed (.timestamp unit) | fixed (.duration unit) => some unit
  | _ => none

/--
Reads a type name, once the blanks around it are removed and its ASCII letters
are in lower case.  What is refused is reported as it was given.
-/
def ofName (text : String) : Except UnknownType SemanticType :=
  match Text.folded text with
  | "bool" | "boolean" => .ok (fixed .bool)
  | "int8" => .ok (fixed .int8)
  | "int16" => .ok (fixed .int16)
  | "int32" => .ok (fixed .int32)
  | "int64" => .ok (fixed .int64)
  | "uint8" => .ok (fixed .uint8)
  | "uint16" => .ok (fixed .uint16)
  | "uint32" => .ok (fixed .uint32)
  | "uint64" => .ok (fixed .uint64)
  | "float32" => .ok (fixed .float32)
  | "float64" => .ok (fixed .float64)
  | "decimal32" => .ok (fixed .decimal32)
  | "decimal64" => .ok (fixed .decimal64)
  | "string" => .ok string
  | "dictionary32" => .ok dictionary32
  | "list" => .ok list
  | "struct" => .ok struct
  | name =>
      match Text.withoutStem? "timestamp_" name with
      | some suffix =>
          match TimeUnit.ofSuffix? suffix with
          | some unit => .ok (fixed (.timestamp unit))
          | none => .error ⟨text⟩
      | none =>
          match Text.withoutStem? "duration_" name with
          | some suffix =>
              match TimeUnit.ofSuffix? suffix with
              | some unit => .ok (fixed (.duration unit))
              | none => .error ⟨text⟩
          | none => .error ⟨text⟩

theorem mem_all (type : SemanticType) : type ∈ all := by
  cases type with
  | fixed type =>
      cases type with
      | timestamp unit => cases unit <;> decide
      | duration unit => cases unit <;> decide
      | _ => decide
  | _ => decide

/-- A kind can be drawn exactly when it has a budgeted size. -/
theorem isImplemented_iff
    (type : SemanticType) :
    type.isImplemented = true ↔ ∃ bytes, type.averageBytes? = some bytes := by
  cases type <;> simp [isImplemented, averageBytes?]

end SemanticType

end SyntheticTable
