import SyntheticTable.Proofs.BitmapRows
import SyntheticTable.Proofs.HeldRows
import SyntheticTable.Proofs.RowFilling

/-!
# Filling fixed-width columns

A fixed-width column is filled in two buffers that are there from the start:
the values, all of them the default, and the mask, in which every row is valid.
A cell is written as a value, or its row is cleared in the mask and the default
stays.

Buffers of which the first rows are filled are laid out from the cells of these
rows.  Once all rows are filled, they are those of the column of the cells.
-/

namespace SyntheticTable

/-- The buffers of a fixed-width column. -/
structure ValueBuffers (type : FixedType) where
  values : Array type.Value
  mask : NullBitmap

namespace ValueBuffers

variable {type : FixedType}

/-- The column of the buffers. -/
def toColumn (buffers : ValueBuffers type) : Column where
  data := .fixed type buffers.values
  mask := buffers.mask

/-- The buffers for a number of rows. -/
def start (type : FixedType) (rows : Nat) : ValueBuffers type where
  values := Array.replicate rows type.defaultValue
  mask := .allValid rows

/-- Reads a value. -/
def value? (buffers : ValueBuffers type) (place : Nat) : Except FillFault type.Value :=
  match buffers.values[place]? with
  | some value => .ok value
  | none => .error (.access .record)

/-- Whether a row is valid. -/
def isValid? (buffers : ValueBuffers type) (row : Nat) : Except FillFault Bool :=
  (buffers.mask.isValid? row).mapError fun error => .access (.row error)

/-- Writes a value. -/
def write?
    (buffers : ValueBuffers type)
    (place : Nat)
    (value : type.Value) :
    Except FillFault (ValueBuffers type) :=
  if place < buffers.values.size then
    .ok { buffers with values := buffers.values.setIfInBounds place value }
  else
    .error (.access .record)

/-- Makes a row null. -/
def clear? (buffers : ValueBuffers type) (row : Nat) : Except FillFault (ValueBuffers type) :=
  ((buffers.mask.clear? row).map fun mask => { buffers with mask }).mapError
    fun error => .access (.row error)

/-- Fills a row with a cell. -/
def put
    (buffers : ValueBuffers type)
    (row : Nat) :
    Option type.Value → Except FillFault (ValueBuffers type)
  | some value => buffers.write? row value
  | none => buffers.clear? row

/-- Fills a row with the row of a pool. -/
def copy
    (buffers : ValueBuffers type)
    (row : Nat)
    (pool : ValueBuffers type)
    (place : Nat) :
    Except FillFault (ValueBuffers type) := do
  if ← pool.isValid? place then
    let value ← pool.value? place
    buffers.write? row value
  else
    buffers.clear? row

/-- Copies the value of a row, and clears the copy if the row is null. -/
def repeatValue
    (buffers : ValueBuffers type)
    (row : Nat)
    (valid : Bool)
    (target : Nat) :
    Except FillFault (ValueBuffers type) := do
  let value ← buffers.value? row
  let written ← buffers.write? target value
  if valid then return written else written.clear? target

/-- Copies a row into the rows from a target on. -/
def repeatFrom
    (row : Nat)
    (valid : Bool) :
    (times target : Nat) → ValueBuffers type → Except FillFault (ValueBuffers type)
  | 0, _, buffers => .ok buffers
  | times + 1, target, buffers => do
      let longer ← buffers.repeatValue row valid target
      repeatFrom row valid times (target + 1) longer

/-- Copies a row into the rows behind it. -/
def stretch
    (buffers : ValueBuffers type)
    (row times : Nat) :
    Except FillFault (ValueBuffers type) := do
  let valid ← buffers.isValid? row
  buffers.repeatFrom row valid times (row + 1)

end ValueBuffers

/-- How the rows of a fixed-width column are filled. -/
def valueFiller (type : FixedType) : Filler (Option type.Value) (ValueBuffers type) where
  start := ValueBuffers.start type
  put := ValueBuffers.put
  copy := ValueBuffers.copy
  stretch := ValueBuffers.stretch

namespace ValueBuffers

variable
    {type : FixedType}
    {rows row place : Nat}
    {cells : List (Option type.Value)}
    {cell : Option type.Value}

/-- The buffers for a number of rows of which the first have cells. -/
def ofCells
    (type : FixedType)
    (rows : Nat)
    (cells : List (Option type.Value)) :
    ValueBuffers type where
  values :=
    (cells.map (·.getD type.defaultValue)
      ++ List.replicate (rows - cells.length) type.defaultValue).toArray
  mask := .ofTest rows fun row => (cells[row]?.map Option.isSome).getD true

theorem start_eq_ofCells (type : FixedType) (rows : Nat) :
    start type rows = ofCells type rows [] := by
  simp [start, ofCells, NullBitmap.allValid_eq_ofTest]

theorem size_values_ofCells (inside : cells.length ≤ rows) :
    (ofCells type rows cells).values.size = rows := by
  simp [ofCells]
  omega

/-- The value of a filled row is that of its cell, or the default. -/
theorem value?_ofCells (found : cells[row]? = some cell) :
    (ofCells type rows cells).value? row = .ok (cell.getD type.defaultValue) := by
  rcases List.getElem?_eq_some_iff.1 found with ⟨inside, -⟩
  have read :
      (ofCells type rows cells).values[row]? = some (cell.getD type.defaultValue) := by
    show ((_ : List type.Value).toArray)[row]? = _
    rw [List.getElem?_toArray,
      List.getElem?_append_left (by rw [List.length_map]; exact inside),
      List.getElem?_map, found]
    rfl
  rw [value?, read]

theorem isValid?_ofCells
    (inside : row < rows)
    (found : cells[row]? = some cell) :
    (ofCells type rows cells).isValid? row = .ok cell.isSome := by
  have isRow : row < (ofCells type rows cells).mask.rows :=
    (NullBitmap.rows_ofTest rows _).symm ▸ inside
  have bit : (ofCells type rows cells).mask.bit row = cell.isSome := by
    show (NullBitmap.ofTest rows _).bit row = _
    rw [NullBitmap.bit_ofTest _ inside, found]
    rfl
  rw [isValid?, NullBitmap.isValid?, if_pos isRow, bit]
  rfl

/-! ## One more cell -/

/-- The values of one more cell: that of the cell stands where the default was. -/
theorem values_append_ofCells (goesOn : cells.length < rows) :
    (ofCells type rows (cells ++ [cell])).values =
      (ofCells type rows cells).values.setIfInBounds cells.length
        (cell.getD type.defaultValue) := by
  have others :
      rows - cells.length = rows - (cells ++ [cell]).length + 1 := by
    rw [List.length_append, List.length_singleton]
    omega
  apply Array.toList_inj.1
  simp [ofCells, others, List.replicate_succ]

theorem values_append_none (goesOn : cells.length < rows) :
    (ofCells type rows (cells ++ [none])).values =
      (ofCells type rows cells).values := by
  have others :
      rows - cells.length =
        rows - (cells ++ [(none : Option type.Value)]).length + 1 := by
    rw [List.length_append, List.length_singleton]
    omega
  apply Array.toList_inj.1
  simp [ofCells, others, List.replicate_succ]

theorem mask_append_some (value : type.Value) :
    (ofCells type rows (cells ++ [some value])).mask =
      (ofCells type rows cells).mask :=
  (NullBitmap.settle_ofTest Option.isSome cells (some value) rows).symm

theorem mask_append_none :
    (ofCells type rows (cells ++ [none])).mask =
      (ofCells type rows cells).mask.clear cells.length :=
  (NullBitmap.settle_ofTest Option.isSome cells none rows).symm

/-- Writing what a cell stands for writes the values of one more cell. -/
theorem write?_ofCells
    (cell : Option type.Value)
    (goesOn : cells.length < rows) :
    (ofCells type rows cells).write? cells.length (cell.getD type.defaultValue) =
      .ok
        ⟨(ofCells type rows (cells ++ [cell])).values,
          (ofCells type rows cells).mask⟩ := by
  rw [write?, size_values_ofCells (Nat.le_of_lt goesOn), if_pos goesOn,
    values_append_ofCells goesOn]

theorem clear?_ofCells
    (goesOn : cells.length < rows)
    (values : Array type.Value) :
    (⟨values, (ofCells type rows cells).mask⟩ : ValueBuffers type).clear?
        cells.length =
      .ok ⟨values, (ofCells type rows (cells ++ [none])).mask⟩ := by
  have isRow : cells.length < (ofCells type rows cells).mask.rows :=
    (NullBitmap.rows_ofTest rows _).symm ▸ goesOn
  rw [clear?, NullBitmap.clear?, if_pos isRow, ← mask_append_none]
  rfl

theorem put_ofCells (goesOn : cells.length < rows) :
    (ofCells type rows cells).put cells.length cell =
      .ok (ofCells type rows (cells ++ [cell])) := by
  cases cell with
  | some value =>
      have written :
          (ofCells type rows cells).write? cells.length value =
            .ok
              ⟨(ofCells type rows (cells ++ [some value])).values,
                (ofCells type rows cells).mask⟩ :=
        write?_ofCells (some value) goesOn
      rw [← mask_append_some value] at written
      exact written
  | none =>
      refine (clear?_ofCells goesOn (ofCells type rows cells).values).trans ?_
      rw [← values_append_none goesOn]

theorem copy_ofCells
    {size : Nat}
    {poolCells : List (Option type.Value)}
    (inside : place < size)
    (found : poolCells[place]? = some cell) :
    (ofCells type rows cells).copy cells.length (ofCells type size poolCells) place =
      (ofCells type rows cells).put cells.length cell := by
  rw [copy, isValid?_ofCells inside found]
  cases cell with
  | some value =>
      rw [value?_ofCells found]
      rfl
  | none => rfl

theorem repeatValue_ofCells
    (goesOn : cells.length < rows)
    (found : cells[row]? = some cell) :
    (ofCells type rows cells).repeatValue row cell.isSome cells.length =
      .ok (ofCells type rows (cells ++ [cell])) := by
  rw [repeatValue, value?_ofCells found, bind_ok, write?_ofCells cell goesOn, bind_ok]
  cases cell with
  | some value =>
      rw [← mask_append_some value]
      rfl
  | none => exact clear?_ofCells goesOn _

theorem repeatFrom_ofCells
    (times : Nat)
    (inside : cells.length + times ≤ rows)
    (found : cells[row]? = some cell) :
    (ofCells type rows cells).repeatFrom row cell.isSome times cells.length =
      (valueFiller type).putAll (ofCells type rows cells) cells.length
        (List.replicate times cell) := by
  induction times generalizing cells with
  | zero => rfl
  | succ times inductionHypothesis =>
      have goesOn : cells.length < rows := by omega
      have count : (cells ++ [cell]).length = cells.length + 1 := List.length_append
      have kept := getElem?_append_of_some found [cell]
      have put :
          (valueFiller type).put (ofCells type rows cells) cells.length cell =
            .ok (ofCells type rows (cells ++ [cell])) :=
        put_ofCells goesOn
      have others := inductionHypothesis (by omega) kept
      rw [count] at others
      rw [repeatFrom, repeatValue_ofCells goesOn found, List.replicate_succ,
        Filler.putAll, put, bind_ok, bind_ok, others]

end ValueBuffers

/-- Buffers of values hold the cells that they are laid out from. -/
def HoldsValues
    (type : FixedType)
    (rows : Nat)
    (cells : List (Option type.Value))
    (buffers : ValueBuffers type) : Prop :=
  buffers = .ofCells type rows cells

/-- The buffers of a fixed-width column have a place for every row. -/
structure KeepsPlaces
    {type : FixedType}
    (rows : Nat)
    (state : Filling (ValueBuffers type)) : Prop where
  valuesSize : state.buffers.values.size = rows
  maskRows : state.buffers.mask.rows = rows

theorem HoldsValues.keepsPlaces
    {type : FixedType}
    {rows : Nat}
    {state : Filling (ValueBuffers type)}
    (holds : Filler.HoldsRows (HoldsValues type) rows state) :
    KeepsPlaces rows state := by
  rcases state with ⟨row, buffers⟩
  rcases holds with ⟨inside, cells, rfl, rfl⟩
  exact ⟨ValueBuffers.size_values_ofCells inside, NullBitmap.rows_ofTest rows _⟩

/-- Values are never refused. -/
theorem valueFiller_keeps (type : FixedType) :
    (valueFiller type).Keeps (HoldsValues type) fun _ => False where
  start := ValueBuffers.start_eq_ofCells type
  put := by
    rintro rows cells _ cell rfl goesOn
    exact .inl ⟨_, ValueBuffers.put_ofCells goesOn, rfl⟩
  copy := by
    rintro rows size place cells poolCells _ _ cell rfl rfl inside found
    exact ValueBuffers.copy_ofCells inside found
  stretch := by
    rintro rows cells _ cell times rfl inside
    have found : (cells ++ [cell])[cells.length]? = some cell := by simp
    have count : (cells ++ [cell]).length = cells.length + 1 := List.length_append
    have isRow : cells.length < rows := by omega
    have copied :=
      ValueBuffers.repeatFrom_ofCells times
        (show (cells ++ [cell]).length + times ≤ rows by rw [count]; exact inside)
        found
    rw [count] at copied
    show ValueBuffers.stretch _ _ _ = _
    rw [ValueBuffers.stretch, ValueBuffers.isValid?_ofCells isRow found, bind_ok,
      copied]

/-- The buffers of the cells of drawn runs are laid out as their column. -/
theorem toColumn_ofCells
    {type : FixedType}
    {rows : Nat}
    {drawn : DrawnRuns (Option type.Value)}
    (size : drawn.cells.size = rows) :
    (ValueBuffers.ofCells type rows drawn.cells.toList).toColumn =
      layOutValues type rows drawn := by
  have nothingLeft : rows - drawn.cells.toList.length = 0 := by
    rw [Array.length_toList, size, Nat.sub_self]
  have values :
      (ValueBuffers.ofCells type rows drawn.cells.toList).values =
        drawn.cells.map (·.getD type.defaultValue) := by
    apply Array.toList_inj.1
    rw [ValueBuffers.ofCells, nothingLeft]
    simp
  have mask :
      (ValueBuffers.ofCells type rows drawn.cells.toList).mask =
        .ofTest rows fun row => (drawn.cells.getD row none).isSome := by
    refine NullBitmap.eq_ofTest (NullBitmap.rows_ofTest rows _) ?_
    intro row inside
    have isCell : row < drawn.cells.size := size ▸ inside
    refine (NullBitmap.bit_ofTest _ inside).trans ?_
    simp [Array.getD, isCell]
  rw [ValueBuffers.toColumn, values, mask]
  rfl

/-- Cells that were drawn in advance are never refused, and make up their column. -/
theorem exists_putDrawn_values
    {type : FixedType}
    {rows : Nat}
    {drawn : DrawnRuns (Option type.Value)}
    (size : drawn.cells.size = rows) :
    ∃ buffers,
      (valueFiller type).putDrawn rows drawn = .ok buffers ∧
        buffers.toColumn = layOutValues type rows drawn := by
  have keeps := valueFiller_keeps type
  have filled :
      ∀ {rows : Nat} (cells : List (Option type.Value)),
        cells.length = rows →
          (valueFiller type).putAll ((valueFiller type).start rows) 0 cells =
            .ok (.ofCells type rows cells) := by
    intro rows cells complete
    rcases
        keeps.putAll cells (keeps.start rows)
          (by rw [List.length_nil, Nat.zero_add]; exact Nat.le_of_eq complete) with
      ⟨longer, put, rfl⟩ | ⟨_, _, ⟨⟩⟩
    exact put
  refine ⟨_, ?_, toColumn_ofCells size⟩
  rw [Filler.putDrawn, filled _ (Array.length_toList), bind_ok]
  exact filled _ (Array.length_toList.trans size)

end SyntheticTable
