import SyntheticTable.Command.Error

/-!
# Requests

What is asked of a run: perhaps a file with a specification, and settings that
go before what the file says.  Where neither says anything there is a usual
value; the usual number of columns is the number of kinds, but only if no file
is given.
-/

namespace SyntheticTable.Command

/-- How a report is written. -/
inductive Format where
  | text
  | json
deriving DecidableEq, Repr

/-- What is asked of a run. -/
structure Request where
  /-- The path of a file with a specification. -/
  specFile? : Option String
  /-- The kinds to use in turn; an empty list says nothing. -/
  types : List SemanticType
  columnCount? : Option UInt64
  tableBytes? : Option UInt64
  seed? : Option UInt32
  workers? : Option UInt64
  nullFrequency? : Option Single
  cardinality? : Option UInt64
  averageRunLength? : Option UInt32
  format : Format
deriving DecidableEq, Repr

/-- A way to read the file at a path. -/
abbrev Reader := String → Except ReadFault String

namespace Request

/-- A request that says nothing. -/
def silent : Request where
  specFile? := none
  types := []
  columnCount? := none
  tableBytes? := none
  seed? := none
  workers? := none
  nullFrequency? := none
  cardinality? := none
  averageRunLength? := none
  format := .text

/-- The specification that a file holds. -/
def loadSpec (read : Reader) (path : String) : Except SpecFileError TableSpec := do
  let content ← (read path).mapError .unreadable
  (TableSpec.ofYaml content).mapError .unsuitable

/-- The specification to start from. -/
def startingSpec (request : Request) (read : Reader) : Except Error TableSpec :=
  match request.specFile? with
  | some path => (loadSpec read path).mapError (.specFile path)
  | none =>
      .ok
        { types := []
          columnCount := 0
          tableBytes := 0
          seed? := none
          params := ColumnParams.standard }

/-- Column parameters with the settings of a request before them. -/
def mergeParams (request : Request) (params : ColumnParams) : ColumnParams where
  nullFrequency := request.nullFrequency?.getD params.nullFrequency
  cardinality := request.cardinality?.getD params.cardinality
  averageRunLength := request.averageRunLength?.getD params.averageRunLength

/-- A specification with the settings of a request before it. -/
def merge (request : Request) (spec : TableSpec) : TableSpec :=
  let types := if request.types.isEmpty then spec.types else request.types
  let columnCount :=
    if request.specFile?.isSome then spec.columnCount else .ofNat types.length
  { types
    columnCount := request.columnCount?.getD columnCount
    tableBytes := request.tableBytes?.getD spec.tableBytes
    seed? := request.seed? <|> spec.seed?
    params := request.mergeParams spec.params }

/-- The specification that is asked for.  It has to list some kind. -/
def toSpec (request : Request) (read : Reader) : Except Error TableSpec := do
  let spec := request.merge (← request.startingSpec read)
  if spec.types.isEmpty then throw .noTypes else return spec

end Request

end SyntheticTable.Command
