import SyntheticTable.Build.Column
import SyntheticTable.TableSpec

/-!
# Generated tables

A table is generated column by column, each from an engine of its own.  The
seeds of these engines are the first words of one master engine, so a column
depends on its place but on no other column.

The columns are cut into chunks of equal size, one task for each.  Tasks may
finish in any order; their results are put together by the number of the
chunk, and the first chunk that failed decides the error.
-/

namespace SyntheticTable

/-- Why a table cannot be generated. -/
inductive GenerateError where
  | spec (error : SpecError)
  | build (error : BuildError)
  /-- A task broke off, or never finished. -/
  | taskFailed (chunk : Nat)
  /-- The end of a chunk cannot be counted. -/
  | chunkOverflow
deriving DecidableEq, Repr

/-- The wording of the error. -/
def GenerateError.message : GenerateError → String
  | spec error => "Spec error: " ++ error.message
  | build error => error.message
  | taskFailed chunk => s!"Column generation task failed: chunk {chunk}"
  | chunkOverflow => "attempt to add with overflow"

/-- The seeds of a number of columns. -/
def columnSeeds (masterSeed : UInt32) (count : Nat) : Array UInt32 :=
  ((Draw.repeated count Draw.word).run (Engine.seeded masterSeed)).1

/-- How many workers there are if so many are asked for: at least one. -/
def workerCount (asked : Nat) : Nat :=
  max asked 1

/-- Columns that are built in one task: those from `start` to before `stop`. -/
structure Chunk where
  start : Nat
  stop : Nat
deriving DecidableEq, Repr

/--
The chunks of some size from a column on, put after the given ones.  The end
of each chunk is counted before it is cut to the number of columns, so it has
to be within reach.
-/
def chunksInto?
    (columns size start : Nat)
    (chunks : Array Chunk) :
    Option (Array Chunk) :=
  if 0 < size ∧ start < columns then
    if start + size ≤ largestCount then
      chunksInto? columns size (start + size)
        (chunks.push ⟨start, min (start + size) columns⟩)
    else
      none
  else
    some chunks
termination_by columns - start
decreasing_by omega

/-- Cuts columns into chunks, at most one for each worker. -/
def chunks? (columns asked : Nat) : Option (List Chunk) :=
  let workers := workerCount asked
  let size := (columns + (workers - 1)) / workers
  (chunksInto? columns size 0 #[]).map Array.toList

/-- Builds the columns of one chunk, each from its own seed. -/
def buildChunk
    (rows : Nat)
    (params : ColumnParams)
    (columns : List (SemanticType × UInt32)) :
    Except BuildError (List Column) :=
  columns.mapM fun (type, seed) =>
    ((buildColumn type rows params).run.run (Engine.seeded seed)).1

/--
Runs tasks in an order and files each result under the number of its task.
-/
def runTasks
    {α : Type}
    (tasks : Array (Unit → α))
    (order : List Nat) :
    Array (Option α) :=
  order.foldl
    (fun results number =>
      match tasks[number]? with
      | some task => results.setIfInBounds number (some (task ()))
      | none => results)
    (Array.replicate tasks.size none)

/-- The columns of all chunks in order, or the error of the first that failed. -/
def gather :
    (chunk : Nat) →
    List (Option (Except BuildError (List Column))) →
    Except GenerateError (List Column)
  | _, [] => .ok []
  | chunk, none :: _ => .error (.taskFailed chunk)
  | chunk, some (.error .bufferTooLarge) :: _ => .error (.taskFailed chunk)
  | _, some (.error error) :: _ => .error (.build error)
  | chunk, some (.ok columns) :: rest =>
      match gather (chunk + 1) rest with
      | .ok others => .ok (columns ++ others)
      | .error error => .error error

namespace TableSpec

/-- What is settled about a table before any column is built. -/
structure Outline where
  types : List SemanticType
  rows : Nat
deriving DecidableEq, Repr

/--
Checks a request: its list of kinds, then the kinds themselves, then the shape
of the columns.
-/
def outline (spec : TableSpec) : Except GenerateError Outline := do
  let types ← spec.expandedTypes.mapError .spec
  match types.find? fun type => !type.isImplemented with
  | some type => throw (.build (.notImplemented ⟨type⟩))
  | none => pure ()
  let _ ← (DrawPlan.of spec.params 0).mapError .build
  let rows ← spec.rowCount.mapError .spec
  return { types, rows }

/--
Generates a table with a number of workers whose tasks finish in an order,
given by the numbers of the chunks.
-/
def generateInOrder
    (spec : TableSpec)
    (workers : Nat)
    (order : List Nat) :
    Except GenerateError Table := do
  let { types, rows } ← spec.outline
  let seeds := columnSeeds spec.seed types.length
  match chunks? types.length workers with
  | none => throw .chunkOverflow
  | some chunks =>
      let columns := types.toArray.zip seeds
      let tasks := chunks.toArray.map fun chunk (_ : Unit) =>
        buildChunk rows spec.params
          (columns.extract chunk.start chunk.stop).toList
      let built ← gather 0 (runTasks tasks order).toList
      return { columns := built.toArray, rowCount := rows }

/-- Generates a table with a number of workers. -/
def generate (spec : TableSpec) (workers : Nat) : Except GenerateError Table :=
  spec.generateInOrder workers (List.range spec.columnCount.toNat)

end TableSpec

end SyntheticTable
