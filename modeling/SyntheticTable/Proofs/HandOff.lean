import SyntheticTable.Store

/-!
# Handing tables over

A store only grows: a column that passes its checks is put behind those stored
before, and its handle is its place.  When the columns of a table all pass and
have the same number of rows, the table is taken as well, and its columns are
found again under its handle.
-/

namespace SyntheticTable.HostStore

theorem bind_run
    {α β : Type}
    (first : Operation α)
    (second : α → Operation β)
    (store : HostStore) :
    (first >>= second).run.run store =
      match first.run.run store with
      | (.ok value, after) => (second value).run.run after
      | (.error error, after) => (.error error, after) := by
  simp only [ExceptT.run_bind, StateT.run_bind]
  rcases first.run.run store with ⟨_ | _, _⟩ <;> rfl

/-- The store with more columns behind those it keeps. -/
def withColumns (store : HostStore) (columns : List Column) : HostStore :=
  { store with columns := store.columns ++ columns.toArray }

/-- The handles of the columns that are put behind those of a store. -/
def nextHandles (store : HostStore) (count : Nat) : List Nat :=
  List.range' store.columns.size count

@[simp]
theorem withColumns_nil (store : HostStore) : store.withColumns [] = store := by
  simp [withColumns]

theorem withColumns_cons
    (store : HostStore)
    (column : Column)
    (columns : List Column) :
    (store.withColumns [column]).withColumns columns =
      store.withColumns (column :: columns) := by
  simp [withColumns]

theorem nextHandles_succ
    (store : HostStore)
    (column : Column)
    (count : Nat) :
    store.columns.size :: (store.withColumns [column]).nextHandles count =
      store.nextHandles (count + 1) := by
  simp [nextHandles, withColumns, List.range'_succ]

/-- A column is taken if it passes the checks, else nothing changes. -/
theorem storeColumn_run
    (column : Column)
    (store : HostStore) :
    (storeColumn column).run.run store =
      match column.validate with
      | .ok () => (.ok store.columns.size, store.withColumns [column])
      | .error error => (.error error, store) := by
  unfold storeColumn
  cases column.validate with
  | error error => rfl
  | ok done => rfl

theorem storeColumns_run
    {columns : List Column}
    (valid : ∀ column ∈ columns, column.validate = .ok ())
    (store : HostStore) :
    (columns.mapM storeColumn).run.run store =
      (.ok (store.nextHandles columns.length), store.withColumns columns) := by
  induction columns generalizing store with
  | nil =>
      rw [withColumns_nil]
      rfl
  | cons column columns inductionHypothesis =>
      have others :=
        inductionHypothesis
          (fun other member => valid other (List.mem_cons_of_mem column member))
          (store.withColumns [column])
      rw [List.mapM_cons, bind_run, storeColumn_run,
        valid column (List.mem_cons_self ..)]
      show (columns.mapM storeColumn >>= _).run.run (store.withColumns [column]) = _
      rw [bind_run, others, withColumns_cons, List.length_cons,
        ← nextHandles_succ store column]
      rfl

/--
Columns are taken in order up to the first that does not pass the checks; those
before it stay.
-/
theorem storeColumns_run_cases
    (columns : List Column)
    (store : HostStore) :
    (∀ column ∈ columns, column.validate = .ok ()) ∨
      ∃ taken refused others error,
        columns = taken ++ refused :: others ∧
          (∀ column ∈ taken, column.validate = .ok ()) ∧
            refused.validate = .error error ∧
              (columns.mapM storeColumn).run.run store =
                (.error error, store.withColumns taken) := by
  induction columns generalizing store with
  | nil => exact .inl (by simp)
  | cons column columns inductionHypothesis =>
      cases checked : column.validate with
      | error error =>
          refine .inr ⟨[], column, columns, error, rfl, by simp, checked, ?_⟩
          rw [List.mapM_cons, bind_run, storeColumn_run, checked, withColumns_nil]
      | ok done =>
          rcases inductionHypothesis (store.withColumns [column]) with
            valid | ⟨taken, refused, others, error, split, valid, invalid, run⟩
          · exact .inl (List.forall_mem_cons.2 ⟨checked, valid⟩)
          · refine
              .inr
                ⟨column :: taken, refused, others, error, by rw [split]; rfl,
                  List.forall_mem_cons.2 ⟨checked, valid⟩, invalid, ?_⟩
            rw [List.mapM_cons, bind_run, storeColumn_run, checked]
            show
              (columns.mapM storeColumn >>= _).run.run (store.withColumns [column]) =
                _
            rw [bind_run, run, withColumns_cons]

/-! ## Tables -/

theorem checkHandles_eq_ok
    {store : HostStore}
    {handles : List Nat}
    {rows : Nat}
    {expected? : Option Nat}
    (known :
      ∀ handle ∈ handles,
        ∃ column,
          store.columns[handle]? = some column ∧ column.rowCount = rows)
    (expected : expected?.getD rows = rows)
    (index : Nat) :
    store.checkHandles index expected? handles = .ok () := by
  induction handles generalizing index expected? with
  | nil => rfl
  | cons handle handles inductionHypothesis =>
      rcases known handle (List.mem_cons_self ..) with ⟨column, found, rowCount⟩
      have others :=
        fun other member => known other (List.mem_cons_of_mem handle member)
      unfold checkHandles
      rw [found]
      show
        (if column.rowCount = expected?.getD column.rowCount then _ else _) = _
      rw [rowCount, expected, if_pos rfl]
      exact inductionHypothesis others rfl (index + 1)

/-- Handles that pass the checks are those of known columns with one number of rows. -/
theorem known_of_checkHandles
    {store : HostStore}
    {handles : List Nat}
    {index : Nat}
    {expected? : Option Nat}
    (checked : store.checkHandles index expected? handles = .ok ()) :
    ∃ rows,
      expected?.getD rows = rows ∧
        ∀ handle ∈ handles,
          ∃ column,
            store.columns[handle]? = some column ∧ column.rowCount = rows := by
  induction handles generalizing index expected? with
  | nil => exact ⟨expected?.getD 0, by cases expected? <;> rfl, by simp⟩
  | cons handle handles inductionHypothesis =>
      unfold checkHandles at checked
      cases found : store.columns[handle]? with
      | none =>
          rw [found] at checked
          cases checked
      | some column =>
          rw [found] at checked
          simp only at checked
          split at checked
          · rename_i expected
            rcases inductionHypothesis checked with ⟨rows, same, others⟩
            have rowCount : column.rowCount = rows := expected.trans same
            refine ⟨rows, ?_, List.forall_mem_cons.2 ⟨⟨column, found, rowCount⟩, others⟩⟩
            rw [← rowCount]
            exact expected.symm
          · cases checked

theorem storeTable_run
    (handles : List Nat)
    (store : HostStore) :
    (storeTable handles).run.run store =
      match store.checkHandles 0 none handles with
      | .ok () =>
          (.ok store.tables.size,
            { store with tables := store.tables.push handles })
      | .error error => (.error error, store) := by
  show (get >>= fun _ => _ : Operation Nat).run.run store = _
  rw [bind_run]
  show ((store.checkHandles 0 none handles : Operation Unit) >>= _).run.run store = _
  rw [bind_run]
  cases store.checkHandles 0 none handles with
  | error error => rfl
  | ok done => rfl

/-- Behind the columns of a store stand those that were put there. -/
theorem exists_column_of_mem_nextHandles
    (store : HostStore)
    {columns : List Column}
    {handle : Nat}
    (member : handle ∈ store.nextHandles columns.length) :
    ∃ column ∈ columns,
      (store.withColumns columns).columns[handle]? = some column := by
  rcases List.mem_range'_1.1 member with ⟨behind, inside⟩
  have within : handle - store.columns.size < columns.length := by omega
  refine ⟨columns[handle - store.columns.size], List.getElem_mem within, ?_⟩
  show (store.columns ++ columns.toArray)[handle]? = _
  rw [Array.getElem?_append_right behind]
  simp [within]

/-- The columns put behind those of a store are found in order. -/
theorem mapM_column?_withColumns
    (store : HostStore)
    (columns : List Column) :
    (store.nextHandles columns.length).mapM (store.withColumns columns).column? =
      some columns := by
  induction columns generalizing store with
  | nil => rfl
  | cons column columns inductionHypothesis =>
      have others := inductionHypothesis (store.withColumns [column])
      rw [withColumns_cons] at others
      have found :
          (store.withColumns (column :: columns)).column? store.columns.size =
            some column := by
        simp [column?, withColumns]
      rw [List.length_cons, ← nextHandles_succ store column, List.mapM_cons,
        found, others]
      rfl

/-- The bytes of a column and of its bitmap. -/
def columnBytes (column : Column) : Nat :=
  column.data.byteSize + column.mask.byteSize

theorem residentBytes_withColumns
    (store : HostStore)
    (columns : List Column) :
    (store.withColumns columns).residentBytes =
      store.residentBytes + (columns.map columnBytes).foldr (· + ·) 0 := by
  show
    ((store.columns ++ columns.toArray).toList.map columnBytes).foldr _ _ =
      (store.columns.toList.map columnBytes).foldr _ _ + _
  rw [Array.toList_append, List.map_append]
  exact List.sum_append

/-- What is left when a table was handed over: its columns, and their handles as a table. -/
def withTable (store : HostStore) (columns : List Column) : HostStore :=
  { store.withColumns columns with
    tables := store.tables.push (store.nextHandles columns.length) }

/-- Columns that pass the checks are stored, and then the table is made of them. -/
theorem handOff_run_of_valid
    {table : Table}
    (valid : ∀ column ∈ table.columns.toList, column.validate = .ok ())
    (store : HostStore) :
    (handOff table).run.run store =
      (storeTable (store.nextHandles table.columns.toList.length)).run.run
        (store.withColumns table.columns.toList) := by
  unfold handOff
  rw [bind_run, storeColumns_run valid]

/-- A table is taken if its columns pass the checks and have one number of rows. -/
theorem handOff_run
    {table : Table}
    {rows : Nat}
    (valid : ∀ column ∈ table.columns.toList, column.validate = .ok ())
    (sameRows : ∀ column ∈ table.columns.toList, column.rowCount = rows)
    (store : HostStore) :
    (handOff table).run.run store =
      (.ok store.tables.size, store.withTable table.columns.toList) := by
  have known :
      ∀ handle ∈ store.nextHandles table.columns.toList.length,
        ∃ column,
          (store.withColumns table.columns.toList).columns[handle]? = some column ∧
            column.rowCount = rows := by
    intro handle member
    rcases store.exists_column_of_mem_nextHandles member with
      ⟨column, columnMember, found⟩
    exact ⟨column, found, sameRows column columnMember⟩
  have checked := checkHandles_eq_ok known (show none.getD rows = rows from rfl) 0
  rw [handOff_run_of_valid valid, storeTable_run, checked]
  rfl

/-- The columns of a table that was handed over are found under its handle. -/
theorem tableColumns?_withTable
    (store : HostStore)
    (columns : List Column) :
    (store.withTable columns).tableColumns? store.tables.size = some columns := by
  have handles :
      (store.withTable columns).tables[store.tables.size]? =
        some (store.nextHandles columns.length) := by
    simp [withTable]
  unfold tableColumns?
  rw [handles]
  exact mapM_column?_withColumns store columns

end SyntheticTable.HostStore
