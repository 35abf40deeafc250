import SyntheticTable.Build.Runs
import SyntheticTable.Build.StringColumn
import SyntheticTable.Random.Poisson

/-!
# Built columns

A column of a kind, drawn from an engine.  The checks come first: the shape
has to be a possible one, and the buffers have to be addressable.  Then the
runs are drawn, and last they are laid out in buffers.

A cell of a fixed-width column is a value, or none if the row is null, in
which case no value is drawn for it.  A cell of a string column always has its
text, also if it is null.
-/

namespace SyntheticTable

/-- The greatest number of bytes that one buffer can take. -/
def largestBuffer : Nat := twoTo 63 - 1

/-- The greatest number that counts rows or bytes. -/
def largestCount : Nat := twoTo 64 - 1

/-- The mean length of a drawn text. -/
def averageStringLength : Nat := 16

/-- A cell of a string column. -/
structure TextCell where
  chars : Array UInt8
  valid : Bool

/-- Draws a cell of a fixed-width column. -/
def drawValueCell
    {α : Type}
    (value : Draw α)
    (nulls : NullRule) :
    Draw (Option α) := do
  if ← nulls.drawValid then return some (← value) else return none

/-- Draws a printable character other than a blank. -/
def drawCharacter : Draw UInt8 :=
  return .ofNat (33 + (← Draw.wordBelow 94))

/-- Draws a cell of a string column: length, characters, validity. -/
def drawTextCell (lengths : Poisson) (nulls : NullRule) : Draw TextCell := do
  let length ← lengths.draw
  let chars ← Draw.repeated length.toUInt64.toNat drawCharacter
  let valid ← nulls.drawValid
  return { chars, valid }

/-- Whether the buffers of a fixed-width column can be addressed. -/
def valuesFit (type : FixedType) (rows : Nat) : Bool :=
  rows * type.width ≤ largestBuffer

/--
Whether the buffers of a string column can be addressed: the characters that
are expected and one offset more than there are rows.
-/
def stringsFit (rows : Nat) : Bool :=
  rows * averageStringLength ≤ largestCount
    && rows + 1 ≤ largestCount
    && (rows + 1) * 4 ≤ largestBuffer
    && rows * averageStringLength ≤ largestBuffer

/-- The column of fixed-width cells. -/
def layOutValues
    (type : FixedType)
    (rows : Nat)
    (drawn : DrawnRuns (Option type.Value)) :
    Column :=
  let cells := drawn.cells
  { data := .fixed type (cells.map (·.getD type.defaultValue))
    mask := .ofTest rows fun row => (cells.getD row none).isSome }

/-- Appends the rows of one run. -/
def appendRun
    (pool column : StringColumn)
    (run : Run TextCell) :
    Except BuildError StringColumn := do
  let row := column.count
  let head ←
    match run.pick with
    | .pooled place => column.copyFrom pool place
    | .fresh cell => column.append cell.chars cell.valid
  head.repeatTimes row (run.length - 1)

/-- The string column of text cells.  The pool is laid out as a column too. -/
def layOutStrings
    (rows : Nat)
    (drawn : DrawnRuns TextCell) :
    Except BuildError StringColumn := do
  let pool ←
    drawn.pool.foldlM (fun column cell => column.append cell.chars cell.valid)
      (StringColumn.start drawn.pool.size)
  drawn.runs.foldlM (appendRun pool) (StringColumn.start rows)

/-- Builds a string column. -/
def buildStrings
    (rows : Nat)
    (params : ColumnParams) :
    ExceptT BuildError Draw StringColumn := do
  let plan ← DrawPlan.of params rows
  let lengths ←
    (Poisson.ofMean (.ofQuotient averageStringLength 1)).mapError
      BuildError.invalidDistribution
  if stringsFit rows then
    let drawn ← (plan.drawRuns rows (drawTextCell lengths plan.nulls) : Draw _)
    layOutStrings rows drawn
  else
    throw .bufferTooLarge

/-- Builds a fixed-width column with a generator. -/
def buildValues
    (type : FixedType)
    (generator : Generator type.Value)
    (rows : Nat)
    (params : ColumnParams) :
    ExceptT BuildError Draw Column := do
  let value ← generator.mapError BuildError.invalidDistribution
  let plan ← DrawPlan.of params rows
  if valuesFit type rows then
    let drawn ← (plan.drawRuns rows (drawValueCell value plan.nulls) : Draw _)
    return layOutValues type rows drawn
  else
    throw .bufferTooLarge

/-- Builds a column of a kind. -/
def buildColumn
    (type : SemanticType)
    (rows : Nat)
    (params : ColumnParams) :
    ExceptT BuildError Draw Column :=
  match type with
  | .fixed .bool => buildValues .bool boolGenerator rows params
  | .fixed .int8 => buildValues .int8 (numericGenerator Int8) rows params
  | .fixed .int16 => buildValues .int16 (numericGenerator Int16) rows params
  | .fixed .int32 => buildValues .int32 (numericGenerator Int32) rows params
  | .fixed .int64 => buildValues .int64 (numericGenerator Int64) rows params
  | .fixed .uint8 => buildValues .uint8 (numericGenerator UInt8) rows params
  | .fixed .uint16 => buildValues .uint16 (numericGenerator UInt16) rows params
  | .fixed .uint32 => buildValues .uint32 (numericGenerator UInt32) rows params
  | .fixed .uint64 => buildValues .uint64 (numericGenerator UInt64) rows params
  | .fixed .float32 =>
      buildValues .float32 (numericGenerator Single) rows params
  | .fixed .float64 =>
      buildValues .float64 (numericGenerator Double) rows params
  | .fixed (.timestamp unit) =>
      buildValues (.timestamp unit) (timestampGenerator unit) rows params
  | .fixed (.duration unit) =>
      buildValues (.duration unit) (durationGenerator unit) rows params
  | .fixed .decimal32 =>
      buildValues .decimal32 (decimalGenerator Int32) rows params
  | .fixed .decimal64 =>
      buildValues .decimal64 (decimalGenerator Int64) rows params
  | .string => return (← buildStrings rows params).toColumn
  | .dictionary32 | .list | .struct => throw (.notImplemented ⟨type⟩)

end SyntheticTable
