import SyntheticTable.Value.Generator

/-!
# Drawn values

A single value of a kind that is known only when it is drawn.  Its generator is
made for this one value.
-/

namespace SyntheticTable

/-- No way of drawing a kind is known. -/
structure NotImplemented where
  type : SemanticType
deriving DecidableEq, Repr

/-- The wording of the error. -/
def NotImplemented.message (error : NotImplemented) : String :=
  s!"generation is not implemented for type '{error.type.name}'"

/-- The wording of a distribution that is refused. -/
def DistributionFault.message (fault : DistributionFault) : String :=
  "Invalid distribution parameters: " ++ fault.name

/-- Why a value cannot be drawn. -/
inductive ValueError where
  | notImplemented (error : NotImplemented)
  | invalidDistribution (fault : DistributionFault)
deriving DecidableEq, Repr

/-- The wording of the error. -/
def ValueError.message : ValueError → String
  | notImplemented error => error.message
  | invalidDistribution fault => fault.message

/-- A value with its kind. -/
structure TypedValue where
  type : FixedType
  value : type.Value

/-- Draws one value of a kind with a generator. -/
def drawTyped
    (type : FixedType)
    (generator : Generator type.Value) :
    ExceptT ValueError Draw TypedValue := do
  let draw ← generator.mapError ValueError.invalidDistribution
  return ⟨type, ← (draw : Draw _)⟩

/-- Draws one value of a kind, if the kind has single values. -/
def SemanticType.drawValue
    (type : SemanticType) :
    ExceptT ValueError Draw TypedValue :=
  match type with
  | .fixed .bool => drawTyped .bool boolGenerator
  | .fixed .int8 => drawTyped .int8 (numericGenerator Int8)
  | .fixed .int16 => drawTyped .int16 (numericGenerator Int16)
  | .fixed .int32 => drawTyped .int32 (numericGenerator Int32)
  | .fixed .int64 => drawTyped .int64 (numericGenerator Int64)
  | .fixed .uint8 => drawTyped .uint8 (numericGenerator UInt8)
  | .fixed .uint16 => drawTyped .uint16 (numericGenerator UInt16)
  | .fixed .uint32 => drawTyped .uint32 (numericGenerator UInt32)
  | .fixed .uint64 => drawTyped .uint64 (numericGenerator UInt64)
  | .fixed .float32 => drawTyped .float32 (numericGenerator Single)
  | .fixed .float64 => drawTyped .float64 (numericGenerator Double)
  | .fixed (.timestamp unit) =>
      drawTyped (.timestamp unit) (timestampGenerator unit)
  | .fixed (.duration unit) =>
      drawTyped (.duration unit) (durationGenerator unit)
  | .fixed .decimal32 => drawTyped .decimal32 (decimalGenerator Int32)
  | .fixed .decimal64 => drawTyped .decimal64 (decimalGenerator Int64)
  | .string | .dictionary32 | .list | .struct =>
      throw (.notImplemented ⟨type⟩)

end SyntheticTable
