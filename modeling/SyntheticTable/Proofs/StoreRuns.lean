import SyntheticTable.Proofs.HandOff

/-!
# Runs of a store

A store is only ever changed by calls, which may fail.  Whatever a call does,
it puts columns that pass the checks behind those that were stored before, and
perhaps one table of stored columns behind the tables.  A failing call may
leave columns behind, but never a table.

So after any calls every stored column passes the checks, every table is made
of stored columns with one number of rows, and a handle that was given once
stands for the same columns ever after.
-/

namespace SyntheticTable.HostStore

/-- A call on a store. -/
inductive Call where
  | storeColumn (column : Column)
  | storeTable (handles : List Nat)
  | handOff (table : Table)

/-- What a call does. -/
def Call.operation : Call → Operation Nat
  | .storeColumn column => HostStore.storeColumn column
  | .storeTable handles => HostStore.storeTable handles
  | .handOff table => HostStore.handOff table

/-- What a store answers to a call: a handle or an error. -/
def answer (store : HostStore) (call : Call) : Except StoreError Nat :=
  (call.operation.run.run store).1

/-- What a call leaves of a store, also if it fails. -/
def after (store : HostStore) (call : Call) : HostStore :=
  (call.operation.run.run store).2

/-- What calls leave of a store, one after the other. -/
def afterAll (store : HostStore) (calls : List Call) : HostStore :=
  calls.foldl after store

/-- What may be said of every store that came about by calls. -/
structure WellFormed (store : HostStore) : Prop where
  columns : ∀ column ∈ store.columns, column.validate = .ok ()
  tables :
    ∀ handles ∈ store.tables,
      ∃ rows,
        ∀ handle ∈ handles,
          ∃ column,
            store.columns[handle]? = some column ∧ column.rowCount = rows

/-- A store keeps what an earlier one kept, at the same places. -/
structure Extends (later earlier : HostStore) : Prop where
  columns : earlier.columns.toList <+: later.columns.toList
  tables : earlier.tables.toList <+: later.tables.toList

/-- The store with one more table behind its tables. -/
def withHandles (store : HostStore) (handles : List Nat) : HostStore :=
  { store with tables := store.tables.push handles }

/-! ## What a call does -/

/--
Everything that a call can do: it stores columns that pass the checks, and then
perhaps a table of known columns with one number of rows.
-/
theorem after_cases (store : HostStore) (call : Call) :
    ∃ columns : List Column,
      (∀ column ∈ columns, column.validate = .ok ()) ∧
        (store.after call = store.withColumns columns ∨
          ∃ handles,
            (store.withColumns columns).checkHandles 0 none handles = .ok () ∧
              store.after call = (store.withColumns columns).withHandles handles) := by
  have ran : store.after call = (call.operation.run.run store).2 := rfl
  cases call with
  | storeColumn column =>
      rw [ran, Call.operation, storeColumn_run]
      cases checked : column.validate with
      | error error => exact ⟨[], by simp, .inl store.withColumns_nil.symm⟩
      | ok done => exact ⟨[column], by simpa using checked, .inl rfl⟩
  | storeTable handles =>
      refine ⟨[], by simp, ?_⟩
      rw [ran, withColumns_nil, Call.operation, storeTable_run]
      cases checked : store.checkHandles 0 none handles with
      | error error => exact .inl rfl
      | ok done => exact .inr ⟨handles, checked, rfl⟩
  | handOff table =>
      rw [ran, Call.operation, HostStore.handOff, bind_run]
      rcases storeColumns_run_cases table.columns.toList store with
        valid | ⟨taken, _, _, _, -, valid, -, run⟩
      · refine ⟨table.columns.toList, valid, ?_⟩
        rw [storeColumns_run valid]
        simp only [storeTable_run]
        split
        · rename_i checked
          exact .inr ⟨_, checked, rfl⟩
        · exact .inl rfl
      · rw [run]
        exact ⟨taken, valid, .inl rfl⟩

/-! ## What calls preserve -/

theorem Extends.refl (store : HostStore) : store.Extends store :=
  ⟨List.prefix_refl _, List.prefix_refl _⟩

theorem Extends.trans
    {first second third : HostStore}
    (later : third.Extends second)
    (earlier : second.Extends first) :
    third.Extends first :=
  ⟨earlier.columns.trans later.columns, earlier.tables.trans later.tables⟩

theorem withColumns_extends
    (store : HostStore)
    (columns : List Column) :
    (store.withColumns columns).Extends store := by
  constructor
  · show _ <+: (store.columns ++ columns.toArray).toList
    rw [Array.toList_append]
    exact List.prefix_append _ _
  · exact List.prefix_refl _

theorem withHandles_extends
    (store : HostStore)
    (handles : List Nat) :
    (store.withHandles handles).Extends store := by
  constructor
  · exact List.prefix_refl _
  · show _ <+: (store.tables.push handles).toList
    rw [Array.toList_push]
    exact List.prefix_append _ _

theorem after_extends (store : HostStore) (call : Call) :
    (store.after call).Extends store := by
  rcases store.after_cases call with ⟨columns, -, onlyColumns | ⟨handles, -, table⟩⟩
  · rw [onlyColumns]
    exact store.withColumns_extends columns
  · rw [table]
    exact
      (withHandles_extends _ handles).trans (store.withColumns_extends columns)

theorem afterAll_extends (store : HostStore) (calls : List Call) :
    (store.afterAll calls).Extends store := by
  induction calls generalizing store with
  | nil => exact .refl store
  | cons call calls inductionHypothesis =>
      exact (inductionHypothesis (store.after call)).trans (store.after_extends call)

theorem getElem?_of_prefix
    {α : Type}
    {shorter longer : Array α}
    {place : Nat}
    {entry : α}
    (before : shorter.toList <+: longer.toList)
    (found : shorter[place]? = some entry) :
    longer[place]? = some entry := by
  rcases before with ⟨others, equal⟩
  rw [← Array.getElem?_toList] at found ⊢
  rcases List.getElem?_eq_some_iff.1 found with ⟨inside, -⟩
  rw [← equal, List.getElem?_append_left inside, found]

/-- A column that is stored is found at its place in every later store. -/
theorem Extends.column?
    {earlier later : HostStore}
    {handle : Nat}
    {column : Column}
    (extension : later.Extends earlier)
    (found : earlier.column? handle = some column) :
    later.column? handle = some column :=
  getElem?_of_prefix extension.columns found

theorem Extends.columns?
    {earlier later : HostStore}
    {handles : List Nat}
    {columns : List Column}
    (extension : later.Extends earlier)
    (found : handles.mapM earlier.column? = some columns) :
    handles.mapM later.column? = some columns := by
  induction handles generalizing columns with
  | nil => exact found
  | cons handle handles inductionHypothesis =>
      simp only [List.mapM_cons, Option.bind_eq_bind, Option.bind_eq_some_iff,
        Option.pure_def, Option.some.injEq] at found ⊢
      rcases found with ⟨column, first, others, rest, rfl⟩
      exact
        ⟨column, extension.column? first, others, inductionHypothesis rest, rfl⟩

/-- A stored table stands for the same columns in every later store. -/
theorem Extends.tableColumns?
    {earlier later : HostStore}
    {handle : Nat}
    {columns : List Column}
    (extension : later.Extends earlier)
    (found : earlier.tableColumns? handle = some columns) :
    later.tableColumns? handle = some columns := by
  simp only [HostStore.tableColumns?, Option.bind_eq_bind,
    Option.bind_eq_some_iff] at found ⊢
  rcases found with ⟨handles, table, columnsFound⟩
  exact
    ⟨handles, getElem?_of_prefix extension.tables table,
      extension.columns? columnsFound⟩

theorem Extends.known
    {earlier later : HostStore}
    {handles : List Nat}
    {rows : Nat}
    (extension : later.Extends earlier)
    (known :
      ∀ handle ∈ handles,
        ∃ column,
          earlier.columns[handle]? = some column ∧ column.rowCount = rows) :
    ∀ handle ∈ handles,
      ∃ column,
        later.columns[handle]? = some column ∧ column.rowCount = rows := by
  intro handle member
  rcases known handle member with ⟨column, found, rowCount⟩
  exact ⟨column, extension.column? found, rowCount⟩

theorem wellFormed_empty : empty.WellFormed where
  columns := by simp [empty]
  tables := by simp [empty]

theorem WellFormed.withColumns
    {store : HostStore}
    {columns : List Column}
    (wellFormed : store.WellFormed)
    (valid : ∀ column ∈ columns, column.validate = .ok ()) :
    (store.withColumns columns).WellFormed where
  columns := by
    intro column member
    rcases Array.mem_append.1 member with old | new
    · exact wellFormed.columns column old
    · exact valid column (by simpa using new)
  tables := by
    intro handles member
    rcases wellFormed.tables handles member with ⟨rows, known⟩
    exact ⟨rows, (store.withColumns_extends columns).known known⟩

theorem WellFormed.withHandles
    {store : HostStore}
    {handles : List Nat}
    (wellFormed : store.WellFormed)
    (checked : store.checkHandles 0 none handles = .ok ()) :
    (store.withHandles handles).WellFormed where
  columns := wellFormed.columns
  tables := by
    intro others member
    rcases Array.mem_push.1 member with old | rfl
    · exact wellFormed.tables others old
    · rcases known_of_checkHandles checked with ⟨rows, -, known⟩
      exact ⟨rows, known⟩

theorem WellFormed.after
    {store : HostStore}
    (wellFormed : store.WellFormed)
    (call : Call) :
    (store.after call).WellFormed := by
  rcases store.after_cases call with
    ⟨columns, valid, onlyColumns | ⟨handles, checked, table⟩⟩
  · rw [onlyColumns]
    exact wellFormed.withColumns valid
  · rw [table]
    exact (wellFormed.withColumns valid).withHandles checked

theorem WellFormed.afterAll
    {store : HostStore}
    (wellFormed : store.WellFormed)
    (calls : List Call) :
    (store.afterAll calls).WellFormed := by
  induction calls generalizing store with
  | nil => exact wellFormed
  | cons call calls inductionHypothesis =>
      exact inductionHypothesis (wellFormed.after call)

/-! ## What handles stand for -/

theorem exists_columns_of_known
    {store : HostStore}
    {handles : List Nat}
    {rows : Nat}
    (known :
      ∀ handle ∈ handles,
        ∃ column,
          store.columns[handle]? = some column ∧ column.rowCount = rows) :
    ∃ columns, handles.mapM store.column? = some columns := by
  induction handles with
  | nil => exact ⟨[], rfl⟩
  | cons handle handles inductionHypothesis =>
      rcases known handle (List.mem_cons_self ..) with ⟨column, found, -⟩
      rcases inductionHypothesis fun other member =>
          known other (List.mem_cons_of_mem handle member) with
        ⟨columns, others⟩
      have found : store.column? handle = some column := found
      exact ⟨column :: columns, by rw [List.mapM_cons, found, others]; rfl⟩

/-- Exactly the handles of stored tables stand for columns. -/
theorem WellFormed.tableColumns?_eq_none_iff
    {store : HostStore}
    (wellFormed : store.WellFormed)
    (handle : Nat) :
    store.tableColumns? handle = none ↔ store.tables.size ≤ handle := by
  unfold tableColumns?
  cases table : store.tables[handle]? with
  | none => simpa using table
  | some handles =>
      rcases Array.getElem?_eq_some_iff.1 table with ⟨inside, equal⟩
      have member : handles ∈ store.tables := equal ▸ Array.getElem_mem inside
      rcases wellFormed.tables handles member with ⟨rows, known⟩
      rcases exists_columns_of_known known with ⟨columns, found⟩
      simp [found, Nat.not_le.2 inside]

/-- The columns that a call is about, as far as the store knows them. -/
def given? (store : HostStore) : Call → Option (List Column)
  | .storeColumn column => some [column]
  | .storeTable handles => handles.mapM store.column?
  | .handOff table => some table.columns.toList

/-- The columns that the answer to a call stands for in a store. -/
def resolved? (store : HostStore) : Call → (handle : Nat) → Option (List Column)
  | .storeColumn _, handle => (store.column? handle).map ([·])
  | .storeTable _, handle | .handOff _, handle => store.tableColumns? handle

/-- What a handle stands for, it stands for in every later store. -/
theorem Extends.resolved?
    {earlier later : HostStore}
    {call : Call}
    {handle : Nat}
    {columns : List Column}
    (extension : later.Extends earlier)
    (found : earlier.resolved? call handle = some columns) :
    later.resolved? call handle = some columns := by
  cases call with
  | storeColumn column =>
      rcases Option.map_eq_some_iff.1 found with ⟨stored, storedFound, rfl⟩
      exact Option.map_eq_some_iff.2 ⟨stored, extension.column? storedFound, rfl⟩
  | storeTable handles => exact extension.tableColumns? found
  | handOff table => exact extension.tableColumns? found

theorem tableColumns?_withHandles
    {store : HostStore}
    {handles : List Nat}
    {columns : List Column}
    (found : handles.mapM store.column? = some columns) :
    (store.withHandles handles).tableColumns? store.tables.size = some columns := by
  have table : (store.withHandles handles).tables[store.tables.size]? = some handles := by
    simp [withHandles]
  rw [tableColumns?, table]
  exact found

/-- The answer to a call stands for the columns that the call is about. -/
theorem resolved?_after
    {store : HostStore}
    {call : Call}
    {handle : Nat}
    (answered : store.answer call = .ok handle) :
    ∃ columns,
      store.given? call = some columns ∧
        (store.after call).resolved? call handle = some columns := by
  have gave : store.answer call = (call.operation.run.run store).1 := rfl
  have left : store.after call = (call.operation.run.run store).2 := rfl
  rw [gave] at answered
  rw [left]
  cases call with
  | storeColumn column =>
      rw [Call.operation, storeColumn_run] at answered ⊢
      refine ⟨[column], rfl, ?_⟩
      split at answered
      · cases answered
        simp [HostStore.resolved?, column?, withColumns]
      · cases answered
  | storeTable handles =>
      rw [Call.operation, storeTable_run] at answered ⊢
      split at answered
      · rename_i checked
        cases answered
        rcases known_of_checkHandles checked with ⟨rows, -, known⟩
        rcases exists_columns_of_known known with ⟨columns, found⟩
        exact ⟨columns, found, tableColumns?_withHandles found⟩
      · cases answered
  | handOff table =>
      refine ⟨table.columns.toList, rfl, ?_⟩
      rw [Call.operation, HostStore.handOff, bind_run] at answered ⊢
      rcases storeColumns_run_cases table.columns.toList store with
        valid | ⟨_, _, _, _, -, -, -, run⟩
      · rw [storeColumns_run valid] at answered ⊢
        simp only [storeTable_run] at answered ⊢
        split at answered
        · cases answered
          exact
            tableColumns?_withHandles
              (store.mapM_column?_withColumns table.columns.toList)
        · cases answered
      · rw [run] at answered
        cases answered

theorem afterAll_append
    (store : HostStore)
    (calls : List Call)
    (call : Call)
    (further : List Call) :
    store.afterAll (calls ++ call :: further) =
      ((store.afterAll calls).after call).afterAll further := by
  simp [afterAll]

/--
After any calls, failed ones included, every stored column passes the checks
and every table is made of stored columns with one number of rows, so the
columns of all tables can be found; and whatever a call answered stands for the
columns of that call, however many calls follow.
-/
theorem runs_keep_handles :
    (∀ calls : List Call,
      (empty.afterAll calls).WellFormed ∧
        ∀ handle,
          (empty.afterAll calls).tableColumns? handle = none ↔
            (empty.afterAll calls).tables.size ≤ handle) ∧
    ∀ (calls : List Call) (call : Call) (handle : Nat),
      (empty.afterAll calls).answer call = .ok handle →
      ∃ columns,
        (empty.afterAll calls).given? call = some columns ∧
          ∀ further : List Call,
            (empty.afterAll (calls ++ call :: further)).resolved? call handle =
              some columns := by
  constructor
  · intro calls
    have wellFormed := wellFormed_empty.afterAll calls
    exact ⟨wellFormed, wellFormed.tableColumns?_eq_none_iff⟩
  · intro calls call handle answered
    rcases resolved?_after answered with ⟨columns, given, resolved⟩
    refine ⟨columns, given, ?_⟩
    intro further
    rw [afterAll_append]
    exact (afterAll_extends _ further).resolved? resolved

/--
A table that names one column twice keeps its columns when another table, which
is refused over its second column, leaves its first column behind.
-/
theorem runs_keep_handles_twice :
    let column : Column := ⟨.fixed .bool #[true], .allValid 1⟩
    let refused : Column := ⟨.fixed .bool #[], .allValid 1⟩
    let calls : List Call := [.storeColumn column]
    let store := empty.afterAll calls
    store.answer (.storeTable [0, 0]) = .ok 0 ∧
      (empty.afterAll
          (calls ++ .storeTable [0, 0] ::
            [.handOff ⟨#[column, refused], 1⟩])).tableColumns? 0 =
        some [column, column] := by
  intro column refused calls store
  have valid : column.validate = .ok () := Column.validate_of_counted rfl
  have kept : store = ⟨#[column], #[]⟩ := by
    show ((HostStore.storeColumn column).run.run empty).2 = _
    rw [storeColumn_run, valid]
    rfl
  have answered : store.answer (.storeTable [0, 0]) = .ok 0 := by
    rw [kept]
    rfl
  rcases runs_keep_handles.2 calls (.storeTable [0, 0]) 0 answered with
    ⟨columns, given, resolved⟩
  have named : store.given? (.storeTable [0, 0]) = some [column, column] := by
    rw [kept]
    rfl
  cases given.symm.trans named
  exact ⟨answered, resolved _⟩

end SyntheticTable.HostStore
