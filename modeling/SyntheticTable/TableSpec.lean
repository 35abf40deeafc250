import SyntheticTable.Build.Params
import SyntheticTable.Value.Draw

/-!
# Table specifications

What table to generate: the kinds of its columns, how many columns, and how
many bytes they may take together.  The listed kinds are used in turn until
there are enough columns, and the rows are as many as the bytes allow by the
budgeted size of a row.
-/

namespace SyntheticTable

/-- A request for a table. -/
structure TableSpec where
  /-- The kinds to use in turn. -/
  types : List SemanticType
  columnCount : UInt64
  /-- How many bytes the rows are budgeted for. -/
  tableBytes : UInt64
  /-- The seed, or none for the usual one. -/
  seed? : Option UInt32
  params : ColumnParams
deriving DecidableEq, Repr

/-- Why a request makes no table. -/
inductive SpecError where
  /-- Columns are asked for, but no kinds. -/
  | emptyTypeList (columns : Nat)
  | notImplemented (error : NotImplemented)
deriving DecidableEq, Repr

/-- The wording of the error. -/
def SpecError.message : SpecError → String
  | emptyTypeList columns =>
      s!"type list is empty but {columns} columns were requested"
  | notImplemented error => error.message

/-- A list repeated until it has a number of entries. -/
def cycled {α : Type} (first : α) (rest : List α) (count : Nat) : List α :=
  let whole := (first :: rest).toArray
  (List.range count).map fun place => whole.getD (place % whole.size) first

/-- The budgeted size of a row with columns of some kinds. -/
def rowBytes (types : List SemanticType) : Except SpecError Nat :=
  types.foldlM
    (fun bytes type =>
      match type.averageBytes? with
      | some more => .ok (bytes + more)
      | none => .error (.notImplemented ⟨type⟩))
    0

namespace TableSpec

/-- Whether two requests are equal, their null frequencies as numbers. -/
def sameRequest (left right : TableSpec) : Bool :=
  let frequency := left.params.nullFrequency
  frequency.sameNumber right.params.nullFrequency
    && left == { right with
      params := { right.params with nullFrequency := frequency } }

/-- The seed that the request stands for. -/
def seed (spec : TableSpec) : UInt32 :=
  spec.seed?.getD defaultSeed

/-- The kinds of all columns. -/
def expandedTypes (spec : TableSpec) : Except SpecError (List SemanticType) :=
  if spec.columnCount = 0 then
    .ok []
  else
    match spec.types with
    | [] => .error (.emptyTypeList spec.columnCount.toNat)
    | first :: rest => .ok (cycled first rest spec.columnCount.toNat)

/-- The budgeted size of a row. -/
def averageRowBytes (spec : TableSpec) : Except SpecError Nat := do
  rowBytes (← spec.expandedTypes)

/-- How many rows the bytes allow; none if there are no columns. -/
def rowCount (spec : TableSpec) : Except SpecError Nat := do
  let bytes ← spec.averageRowBytes
  if bytes = 0 then return 0 else return spec.tableBytes.toNat / bytes

end TableSpec

end SyntheticTable
