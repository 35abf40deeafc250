import SyntheticTable.Proofs.HandOff

/-!
# Tables that a store refuses

A table is refused over the first thing that is wrong with it.  When columns
are handed over, that is the first column that does not pass the checks, and
then the columns before it have been stored; if all pass, it is the first
column whose number of rows is not that of the first, and then all of them have
been stored.  A table of stored columns is refused over the first handle that
is unknown or whose column differs in its rows, and then nothing has changed.
A table that is refused is never among the tables.
-/

namespace SyntheticTable.HostStore

/-- A fault at a place before which there is none. -/
def FirstFault
    (fault : Nat → StoreError → Prop)
    (index : Nat)
    (error : StoreError) :
    Prop :=
  fault index error ∧ ∀ earlier < index, ∀ other, ¬ fault earlier other

/-- The column at a place does not pass the checks. -/
inductive InvalidAt (columns : List Column) : Nat → StoreError → Prop where
  | invalid
      {index : Nat}
      {column : Column}
      {error : StoreError}
      (found : columns[index]? = some column)
      (checked : column.validate = .error error) :
      InvalidAt columns index error

/-- The column at a place differs in its number of rows from the first. -/
inductive RaggedAt (columns : List Column) : Nat → StoreError → Prop where
  | ragged
      {index : Nat}
      {first column : Column}
      (firstFound : columns[0]? = some first)
      (found : columns[index]? = some column)
      (differs : column.rowCount ≠ first.rowCount) :
      RaggedAt columns index
        (.rowCountMismatch index column.rowCount first.rowCount)

/-- The handle at a place is unknown, or its column differs from the first. -/
inductive FaultyAt
    (store : HostStore)
    (handles : List Nat) :
    Nat → StoreError → Prop where
  | unknown
      {index handle : Nat}
      (named : handles[index]? = some handle)
      (missing : store.column? handle = none) :
      FaultyAt store handles index (.unknownColumn handle)
  | ragged
      {index firstHandle handle : Nat}
      {first column : Column}
      (firstNamed : handles[0]? = some firstHandle)
      (firstFound : store.column? firstHandle = some first)
      (named : handles[index]? = some handle)
      (found : store.column? handle = some column)
      (differs : column.rowCount ≠ first.rowCount) :
      FaultyAt store handles index
        (.rowCountMismatch index column.rowCount first.rowCount)

/-- All handles are those of known columns with one number of rows. -/
def Known (store : HostStore) (handles : List Nat) : Prop :=
  ∃ rows,
    ∀ handle ∈ handles,
      ∃ column, store.column? handle = some column ∧ column.rowCount = rows

/-! ## The first fault -/

theorem FirstFault.unique
    {fault : Nat → StoreError → Prop}
    {index place : Nat}
    {error other : StoreError}
    (first : FirstFault fault index error)
    (same : FirstFault fault place other)
    (single :
      ∀ index error other, fault index error → fault index other → error = other) :
    index = place ∧ error = other := by
  have indexEqual : index = place := by
    rcases Nat.lt_trichotomy index place with before | equal | behind
    · exact (same.2 index before error first.1).elim
    · exact equal
    · exact (first.2 place behind other same.1).elim
  subst indexEqual
  exact ⟨rfl, single index error other first.1 same.1⟩

variable
    {store : HostStore}
    {handles : List Nat}

theorem FaultyAt.single
    {index : Nat}
    {error other : StoreError}
    (faulty : FaultyAt store handles index error)
    (same : FaultyAt store handles index other) :
    error = other := by
  cases faulty with
  | unknown named missing =>
      cases same with
      | unknown sameNamed sameMissing =>
          cases named.symm.trans sameNamed
          rfl
      | ragged _ _ sameNamed sameFound _ =>
          cases named.symm.trans sameNamed
          cases missing.symm.trans sameFound
  | ragged firstNamed firstFound named found differs =>
      cases same with
      | unknown sameNamed sameMissing =>
          cases named.symm.trans sameNamed
          cases found.symm.trans sameMissing
      | ragged sameFirstNamed sameFirstFound sameNamed sameFound _ =>
          cases firstNamed.symm.trans sameFirstNamed
          cases firstFound.symm.trans sameFirstFound
          cases named.symm.trans sameNamed
          cases found.symm.trans sameFound
          rfl

theorem Known.not_faultyAt
    (known : store.Known handles)
    (index : Nat)
    (error : StoreError) :
    ¬ FaultyAt store handles index error := by
  rcases known with ⟨rows, known⟩
  rintro (⟨named, missing⟩ | ⟨firstNamed, firstFound, named, found, differs⟩)
  · rcases known _ (List.mem_of_getElem? named) with ⟨column, found, -⟩
    cases missing.symm.trans found
  · rcases known _ (List.mem_of_getElem? firstNamed) with ⟨first, sameFirst, firstRows⟩
    rcases known _ (List.mem_of_getElem? named) with ⟨column, same, rowCount⟩
    cases firstFound.symm.trans sameFirst
    cases found.symm.trans same
    exact differs (rowCount.trans firstRows.symm)

/-- A fault among the first handles is one of theirs alone. -/
theorem FaultyAt.of_append
    {others : List Nat}
    {index : Nat}
    {error : StoreError}
    (faulty : FaultyAt store (handles ++ others) index error)
    (before : index < handles.length) :
    FaultyAt store handles index error := by
  have same : ∀ place ≤ index, (handles ++ others)[place]? = handles[place]? := by
    intro place upTo
    exact List.getElem?_append_left (Nat.lt_of_le_of_lt upTo before)
  have sameFirst := same 0 (Nat.zero_le index)
  have sameHere := same index (Nat.le_refl index)
  cases faulty with
  | unknown named missing => exact .unknown (sameHere.symm.trans named) missing
  | ragged firstNamed firstFound named found differs =>
      exact
        .ragged (sameFirst.symm.trans firstNamed) firstFound
          (sameHere.symm.trans named) found differs

/-- The checks against a number of rows pass, or stop at the first handle that fails them. -/
theorem checkHandles_cases
    (store : HostStore)
    (rows index : Nat)
    (handles : List Nat) :
    store.checkHandles index (some rows) handles = .ok () ∨
      ∃ passed handle others error,
        handles = passed ++ handle :: others ∧
          (∀ other ∈ passed,
            ∃ column, store.column? other = some column ∧ column.rowCount = rows) ∧
            store.checkHandles index (some rows) handles = .error error ∧
              (store.column? handle = none ∧ error = .unknownColumn handle ∨
                ∃ column,
                  store.column? handle = some column ∧
                    column.rowCount ≠ rows ∧
                      error =
                        .rowCountMismatch (index + passed.length)
                          column.rowCount rows) := by
  induction handles generalizing index with
  | nil => exact .inl rfl
  | cons handle handles inductionHypothesis =>
      unfold checkHandles
      cases found : store.columns[handle]? with
      | none =>
          exact
            .inr
              ⟨[], handle, handles, _, rfl, by simp, rfl, .inl ⟨found, rfl⟩⟩
      | some column =>
          by_cases same : column.rowCount = rows
          · rcases inductionHypothesis (index + 1) with
              passes | ⟨passed, refused, others, error, split, known, fails, fault⟩
            · exact .inl ((if_pos same).trans passes)
            · refine
                .inr
                  ⟨handle :: passed, refused, others, error, by rw [split]; rfl,
                    List.forall_mem_cons.2 ⟨⟨column, found, same⟩, known⟩,
                    (if_pos same).trans fails, ?_⟩
              rw [List.length_cons, ← Nat.add_assoc, Nat.add_right_comm]
              exact fault
          · exact
              .inr
                ⟨[], handle, handles, _, rfl, by simp, if_neg same,
                  .inr ⟨column, found, same, rfl⟩⟩

/-- Without an expectation the rows of the first column are expected. -/
theorem checkHandles_of_first
    {handle : Nat}
    {first : Column}
    (found : store.column? handle = some first)
    (index : Nat)
    (handles : List Nat) :
    store.checkHandles index none (handle :: handles) =
      store.checkHandles index (some first.rowCount) (handle :: handles) := by
  have found : store.columns[handle]? = some first := found
  unfold checkHandles
  rw [found]
  rfl

/-- Handles that do not pass the checks have a first fault, and it is reported. -/
theorem firstFault_of_checkHandles
    {error : StoreError}
    (failed : store.checkHandles 0 none handles = .error error) :
    ∃ index, FirstFault (FaultyAt store handles) index error := by
  cases handles with
  | nil => cases failed
  | cons handle handles =>
      cases found : store.column? handle with
      | none =>
          have reported :
              store.checkHandles 0 none (handle :: handles) =
                .error (.unknownColumn handle) := by
            have missing : store.columns[handle]? = none := found
            unfold checkHandles
            rw [missing]
          cases reported.symm.trans failed
          exact ⟨0, .unknown rfl found, fun earlier before => by omega⟩
      | some first =>
          rw [checkHandles_of_first found] at failed
          rcases store.checkHandles_cases first.rowCount 0 (handle :: handles) with
            passes | ⟨passed, refused, others, reported, split, known, fails, fault⟩
          · cases passes.symm.trans failed
          cases fails.symm.trans failed
          have named : (handle :: handles)[passed.length]? = some refused := by
            rw [split]
            simp
          refine ⟨passed.length, ?_, ?_⟩
          · rcases fault with ⟨missing, rfl⟩ | ⟨column, refusedFound, differs, rfl⟩
            · exact .unknown named missing
            · rw [Nat.zero_add]
              exact .ragged rfl found named refusedFound differs
          · intro earlier before other faulty
            have passedKnown : store.Known passed := ⟨first.rowCount, known⟩
            rw [split] at faulty
            exact passedKnown.not_faultyAt earlier other (faulty.of_append before)

theorem checkHandles_eq_ok_iff :
    store.checkHandles 0 none handles = .ok () ↔ store.Known handles := by
  constructor
  · intro checked
    rcases known_of_checkHandles checked with ⟨rows, -, known⟩
    exact ⟨rows, known⟩
  · rintro ⟨rows, known⟩
    exact checkHandles_eq_ok known rfl 0

theorem checkHandles_eq_error_iff {error : StoreError} :
    store.checkHandles 0 none handles = .error error ↔
      ∃ index, FirstFault (FaultyAt store handles) index error := by
  refine ⟨firstFault_of_checkHandles, ?_⟩
  rintro ⟨index, first⟩
  cases checked : store.checkHandles 0 none handles with
  | ok done =>
      have known := checkHandles_eq_ok_iff.1 checked
      exact (known.not_faultyAt index error first.1).elim
  | error reported =>
      rcases firstFault_of_checkHandles checked with ⟨place, same⟩
      rw [(first.unique same fun _ _ _ => FaultyAt.single).2]

/-! ## Columns behind those of a store -/

theorem column?_withColumns
    (store : HostStore)
    (columns : List Column)
    (place : Nat) :
    (store.withColumns columns).column? (store.columns.size + place) =
      columns[place]? := by
  show (store.columns ++ columns.toArray)[store.columns.size + place]? = _
  rw [Array.getElem?_append_right (Nat.le_add_right _ _), Nat.add_sub_cancel_left]
  exact List.getElem?_toArray

theorem getElem?_nextHandles_eq_some_iff
    (store : HostStore)
    (count : Nat)
    {place handle : Nat} :
    (store.nextHandles count)[place]? = some handle ↔
      place < count ∧ handle = store.columns.size + place := by
  rw [nextHandles, List.getElem?_eq_some_iff]
  simp [eq_comm]

/-- The handles of columns put behind those of a store are faulty where they are ragged. -/
theorem faultyAt_nextHandles_iff
    {columns : List Column}
    {index : Nat}
    {error : StoreError} :
    FaultyAt (store.withColumns columns) (store.nextHandles columns.length) index
        error ↔
      RaggedAt columns index error := by
  have placed :
      ∀ {place handle : Nat},
        (store.nextHandles columns.length)[place]? = some handle →
          place < columns.length ∧
            (store.withColumns columns).column? handle = columns[place]? := by
    intro place handle named
    rcases (store.getElem?_nextHandles_eq_some_iff _).1 named with ⟨inside, rfl⟩
    exact ⟨inside, store.column?_withColumns columns place⟩
  have handed :
      ∀ {place : Nat} {column : Column},
        columns[place]? = some column →
          (store.nextHandles columns.length)[place]? =
              some (store.columns.size + place) ∧
            (store.withColumns columns).column? (store.columns.size + place) =
              some column := by
    intro place column found
    rcases List.getElem?_eq_some_iff.1 found with ⟨inside, -⟩
    exact
      ⟨(store.getElem?_nextHandles_eq_some_iff _).2 ⟨inside, rfl⟩,
        (store.column?_withColumns columns place).trans found⟩
  constructor
  · rintro (⟨named, missing⟩ | ⟨firstNamed, firstFound, named, found, differs⟩)
    · rcases placed named with ⟨inside, sameColumn⟩
      rw [sameColumn, List.getElem?_eq_getElem inside] at missing
      cases missing
    · rw [(placed firstNamed).2] at firstFound
      rw [(placed named).2] at found
      exact .ragged firstFound found differs
  · rintro ⟨firstFound, found, differs⟩
    exact
      .ragged (handed firstFound).1 (handed firstFound).2 (handed found).1
        (handed found).2 differs

theorem firstFault_nextHandles_iff
    (store : HostStore)
    {columns : List Column}
    {index : Nat}
    {error : StoreError} :
    FirstFault
        (FaultyAt (store.withColumns columns) (store.nextHandles columns.length))
        index error ↔
      FirstFault (RaggedAt columns) index error := by
  simp only [FirstFault, faultyAt_nextHandles_iff]

/-- The handles of columns put behind those of a store are known if the rows agree. -/
theorem known_nextHandles_iff {columns : List Column} :
    (store.withColumns columns).Known (store.nextHandles columns.length) ↔
      ∃ rows, ∀ column ∈ columns, column.rowCount = rows := by
  constructor
  · rintro ⟨rows, known⟩
    refine ⟨rows, ?_⟩
    intro column member
    rcases List.getElem?_of_mem member with ⟨place, found⟩
    rcases List.getElem?_eq_some_iff.1 found with ⟨inside, -⟩
    have named := (store.getElem?_nextHandles_eq_some_iff _).2 ⟨inside, rfl⟩
    rcases known _ (List.mem_of_getElem? named) with ⟨same, sameFound, rowCount⟩
    rw [column?_withColumns, found] at sameFound
    cases sameFound
    exact rowCount
  · rintro ⟨rows, sameRows⟩
    refine ⟨rows, ?_⟩
    intro handle member
    rcases store.exists_column_of_mem_nextHandles member with
      ⟨column, columnMember, found⟩
    exact ⟨column, found, sameRows column columnMember⟩

/-! ## What storing leaves -/

/--
What is left of a store when columns that are handed over are refused: the
columns before the first that does not pass the checks have been stored, or
all columns if only their rows differ, and no table.
-/
inductive Refuses
    (store : HostStore)
    (columns : List Column) :
    StoreError → HostStore → Prop where
  | invalid
      {index : Nat}
      {error : StoreError}
      (first : FirstFault (InvalidAt columns) index error) :
      Refuses store columns error
        ⟨store.columns ++ (columns.take index).toArray, store.tables⟩
  | ragged
      {index : Nat}
      {error : StoreError}
      (valid : ∀ column ∈ columns, column.validate = .ok ())
      (first : FirstFault (RaggedAt columns) index error) :
      Refuses store columns error
        ⟨store.columns ++ columns.toArray, store.tables⟩

/-- The first column that does not pass the checks is the first fault. -/
theorem firstFault_invalidAt
    {taken : List Column}
    {refused : Column}
    {error : StoreError}
    (valid : ∀ column ∈ taken, column.validate = .ok ())
    (checked : refused.validate = .error error)
    (others : List Column) :
    FirstFault (InvalidAt (taken ++ refused :: others)) taken.length error := by
  refine ⟨.invalid (by simp) checked, ?_⟩
  rintro earlier before other ⟨found, earlierChecked⟩
  rw [List.getElem?_append_left before] at found
  cases (valid _ (List.mem_of_getElem? found)).symm.trans earlierChecked

theorem InvalidAt.single
    {columns : List Column}
    {index : Nat}
    {error other : StoreError}
    (invalid : InvalidAt columns index error)
    (same : InvalidAt columns index other) :
    error = other := by
  rcases invalid with ⟨found, checked⟩
  rcases same with ⟨sameFound, sameChecked⟩
  cases found.symm.trans sameFound
  cases checked.symm.trans sameChecked
  rfl

theorem not_invalidAt
    {columns : List Column}
    (valid : ∀ column ∈ columns, column.validate = .ok ())
    (index : Nat)
    (error : StoreError) :
    ¬ InvalidAt columns index error := by
  rintro ⟨found, checked⟩
  cases (valid _ (List.mem_of_getElem? found)).symm.trans checked

/-- Columns that do not all pass the checks are refused over the first of them. -/
theorem handOff_run_of_invalid
    {table : Table}
    {index : Nat}
    {error : StoreError}
    (first : FirstFault (InvalidAt table.columns.toList) index error)
    (store : HostStore) :
    (handOff table).run.run store =
      (.error error, store.withColumns (table.columns.toList.take index)) := by
  rcases storeColumns_run_cases table.columns.toList store with
    valid | ⟨taken, refused, others, reported, split, valid, checked, run⟩
  · exact (not_invalidAt valid index error first.1).elim
  have same := firstFault_invalidAt valid checked others
  rw [← split] at same
  rcases first.unique same fun _ _ _ => InvalidAt.single with ⟨rfl, rfl⟩
  unfold handOff
  rw [bind_run, run, split, List.take_left]

/-- Columns that all pass the checks are refused over the first that is ragged. -/
theorem handOff_run_of_ragged
    {table : Table}
    {index : Nat}
    {error : StoreError}
    (valid : ∀ column ∈ table.columns.toList, column.validate = .ok ())
    (first : FirstFault (RaggedAt table.columns.toList) index error)
    (store : HostStore) :
    (handOff table).run.run store =
      (.error error, store.withColumns table.columns.toList) := by
  have faulty := (firstFault_nextHandles_iff store).2 first
  have failed := checkHandles_eq_error_iff.2 ⟨index, faulty⟩
  rw [handOff_run_of_valid valid, storeTable_run, failed]

theorem Refuses.run
    {table : Table}
    {error : StoreError}
    {after : HostStore}
    (refuses : store.Refuses table.columns.toList error after) :
    (handOff table).run.run store = (.error error, after) := by
  cases refuses with
  | invalid first => exact handOff_run_of_invalid first store
  | ragged valid first => exact handOff_run_of_ragged valid first store

theorem handOff_cases (table : Table) (store : HostStore) :
    ((∀ column ∈ table.columns.toList, column.validate = .ok ()) ∧
        ∃ rows, ∀ column ∈ table.columns.toList, column.rowCount = rows) ∨
      ∃ error after, store.Refuses table.columns.toList error after := by
  rcases storeColumns_run_cases table.columns.toList store with
    valid | ⟨taken, refused, others, error, split, valid, checked, -⟩
  · cases checked :
        (store.withColumns table.columns.toList).checkHandles 0 none
          (store.nextHandles table.columns.toList.length) with
    | ok done =>
        exact .inl ⟨valid, known_nextHandles_iff.1 (checkHandles_eq_ok_iff.1 checked)⟩
    | error error =>
        rcases checkHandles_eq_error_iff.1 checked with ⟨index, first⟩
        exact .inr ⟨error, _, .ragged valid ((firstFault_nextHandles_iff store).1 first)⟩
  · have first := firstFault_invalidAt valid checked others
    rw [← split] at first
    exact .inr ⟨error, _, .invalid first⟩

/--
Handing a table over succeeds exactly if all its columns pass the checks and
have one number of rows, and fails exactly with the fault, and the store, that
`Refuses` tells.  Making a table of handles succeeds exactly if these are known
and of one number of rows, and else fails over the first that is not and
changes nothing.
-/
theorem storing_takes_effect (store : HostStore) :
    (∀ table handle after,
        (handOff table).run.run store = (.ok handle, after) ↔
          ((∀ column ∈ table.columns.toList, column.validate = .ok ()) ∧
              ∃ rows, ∀ column ∈ table.columns.toList, column.rowCount = rows) ∧
            handle = store.tables.size ∧
              after = store.withTable table.columns.toList) ∧
      (∀ table error after,
        (handOff table).run.run store = (.error error, after) ↔
          store.Refuses table.columns.toList error after) ∧
        (∀ handles handle after,
          (storeTable handles).run.run store = (.ok handle, after) ↔
            store.Known handles ∧
              handle = store.tables.size ∧
                after = { store with tables := store.tables.push handles }) ∧
          ∀ handles error after,
            (storeTable handles).run.run store = (.error error, after) ↔
              (∃ index, FirstFault (FaultyAt store handles) index error) ∧
                after = store := by
  refine ⟨?_, ?_, ?_, ?_⟩
  · intro table handle after
    constructor
    · intro run
      rcases handOff_cases table store with
        ⟨valid, rows, sameRows⟩ | ⟨error, left, refuses⟩
      · cases (handOff_run valid sameRows store).symm.trans run
        exact ⟨⟨valid, rows, sameRows⟩, rfl, rfl⟩
      · cases refuses.run.symm.trans run
    · rintro ⟨⟨valid, rows, sameRows⟩, rfl, rfl⟩
      exact handOff_run valid sameRows store
  · intro table error after
    refine ⟨?_, Refuses.run⟩
    intro run
    rcases handOff_cases table store with
      ⟨valid, rows, sameRows⟩ | ⟨reported, left, refuses⟩
    · cases (handOff_run valid sameRows store).symm.trans run
    · cases refuses.run.symm.trans run
      exact refuses
  · intro handles handle after
    rw [storeTable_run, ← checkHandles_eq_ok_iff]
    cases store.checkHandles 0 none handles with
    | ok done =>
        constructor
        · rintro ⟨⟩
          exact ⟨rfl, rfl, rfl⟩
        · rintro ⟨-, rfl, rfl⟩
          rfl
    | error reported => constructor <;> rintro ⟨⟨⟩⟩
  · intro handles error after
    rw [storeTable_run, ← checkHandles_eq_error_iff]
    cases store.checkHandles 0 none handles with
    | ok done => constructor <;> rintro ⟨⟨⟩⟩
    | error reported =>
        constructor
        · rintro ⟨⟩
          exact ⟨rfl, rfl⟩
        · rintro ⟨⟨⟩, rfl⟩
          rfl

end SyntheticTable.HostStore
