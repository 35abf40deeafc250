import SyntheticTable.Proofs.RowBudget

/-!
# The budget of a row, round by round

The columns take the listed kinds in rounds: some whole ones, and a last one
that stops early.  So a row is budgeted for the whole list once for each round,
and for the kinds of the last round; a kind that is listed but never reached
costs nothing and refuses nothing.

The rows are as many as the bytes allow, which pins their number from both
sides.
-/

namespace SyntheticTable

/-! ## Rounds of a list -/

section Rounds

variable
    {α : Type}
    (first : α)
    (rest : List α)

/-- Less than a round is the beginning of the list. -/
theorem cycled_of_le
    {count : Nat}
    (within : count ≤ (first :: rest).length) :
    cycled first rest count = (first :: rest).take count := by
  symm
  apply (take_prefix_cycled first rest count).eq_of_length
  rw [length_cycled, List.length_take, min_eq_left within]

/-- After a whole round the list starts again. -/
theorem cycled_round (count : Nat) :
    cycled first rest ((first :: rest).length + count) =
      (first :: rest) ++ cycled first rest count := by
  apply List.ext_getElem?
  intro place
  by_cases inside : place < (first :: rest).length + count
  · rw [cycled_getElem? first rest _ inside]
    by_cases firstRound : place < (first :: rest).length
    · rw [List.getElem?_append_left firstRound, Nat.mod_eq_of_lt firstRound]
    · have later : (first :: rest).length ≤ place := not_lt.1 firstRound
      rw [List.getElem?_append_right later,
        cycled_getElem? first rest count (by omega), ← Nat.mod_eq_sub_mod later]
  · have outside : (first :: rest).length + count ≤ place := not_lt.1 inside
    rw [List.getElem?_eq_none, List.getElem?_eq_none]
    · rwa [List.length_append, length_cycled]
    · rwa [length_cycled]

end Rounds

theorem budgetedBytes_append (types others : List SemanticType) :
    budgetedBytes (types ++ others) = budgetedBytes types + budgetedBytes others := by
  rw [budgetedBytes, List.map_append, List.sum_append]
  rfl

/-- Every round is budgeted for the whole list, and the last one for what it uses. -/
theorem budgetedBytes_cycled
    (first : SemanticType)
    (rest : List SemanticType)
    (rounds : Nat)
    {left : Nat}
    (early : left ≤ (first :: rest).length) :
    budgetedBytes (cycled first rest (rounds * (first :: rest).length + left)) =
      rounds * budgetedBytes (first :: rest) +
        budgetedBytes ((first :: rest).take left) := by
  induction rounds with
  | zero =>
      rw [Nat.zero_mul, Nat.zero_add, Nat.zero_mul, Nat.zero_add,
        cycled_of_le first rest early]
  | succ rounds inductionHypothesis =>
      have oneRound :
          (rounds + 1) * (first :: rest).length + left =
            (first :: rest).length + (rounds * (first :: rest).length + left) := by
        rw [Nat.succ_mul]
        omega
      rw [oneRound, cycled_round, budgetedBytes_append, inductionHypothesis,
        Nat.succ_mul]
      omega

/-! ## Kinds without a size -/

/-- A kind has no budgeted size, and those listed before it have one. -/
def FirstUnsized (types : List SemanticType) (type : SemanticType) : Prop :=
  ∃ earlier later,
    types = earlier ++ type :: later ∧
      type.averageBytes? = none ∧
        ∀ other ∈ earlier, ∃ bytes, other.averageBytes? = some bytes

theorem SemanticType.averageBytes?_eq_none_iff (type : SemanticType) :
    type.averageBytes? = none ↔ (!type.isImplemented) = true := by
  cases type <;> simp [isImplemented, averageBytes?]

/-- Searching the kinds that cannot be drawn finds the first without a size. -/
theorem find?_eq_some_iff_firstUnsized
    {types : List SemanticType}
    {type : SemanticType} :
    (types.find? fun type => !type.isImplemented) = some type ↔
      FirstUnsized types type := by
  rw [List.find?_eq_some_iff_append, FirstUnsized,
    SemanticType.averageBytes?_eq_none_iff]
  simp only [Bool.not_not, SemanticType.isImplemented_iff]
  constructor
  · rintro ⟨unsized, earlier, later, parts, sized⟩
    exact ⟨earlier, later, parts, unsized, sized⟩
  · rintro ⟨earlier, later, parts, unsized, sized⟩
    exact ⟨unsized, earlier, later, parts, sized⟩

theorem rowBytes_eq_error_iff
    {types : List SemanticType}
    {error : SpecError} :
    rowBytes types = .error error ↔
      ∃ type, FirstUnsized types type ∧ error = .notImplemented ⟨type⟩ := by
  simp only [← find?_eq_some_iff_firstUnsized]
  rw [rowBytes_eq]
  cases types.find? fun type => !type.isImplemented with
  | none => simp
  | some type => simp [eq_comm]

theorem rowBytes_eq_ok_iff
    {types : List SemanticType}
    {bytes : Nat} :
    rowBytes types = .ok bytes ↔
      (∀ type, ¬ FirstUnsized types type) ∧ bytes = budgetedBytes types := by
  simp only [← find?_eq_some_iff_firstUnsized]
  rw [rowBytes_eq]
  cases types.find? fun type => !type.isImplemented with
  | none => simp [eq_comm]
  | some type => simp

/-- A kind that is never reached is not in the way. -/
theorem firstUnsized_cycled_iff
    (first : SemanticType)
    (rest : List SemanticType)
    (count : Nat)
    (type : SemanticType) :
    FirstUnsized (cycled first rest count) type ↔
      FirstUnsized ((first :: rest).take count) type := by
  rw [← find?_eq_some_iff_firstUnsized, find?_cycled,
    find?_eq_some_iff_firstUnsized]

theorem rowBytes_pos
    {types : List SemanticType}
    {bytes : Nat}
    (budgeted : rowBytes types = .ok bytes)
    (inhabited : 0 < types.length) :
    0 < bytes := by
  rcases rowBytes_eq_ok_iff.1 budgeted with ⟨sized, rfl⟩
  have allKnown : (types.find? fun type => !type.isImplemented) = none := by
    apply Option.eq_none_iff_forall_ne_some.2
    intro type found
    exact sized type (find?_eq_some_iff_firstUnsized.1 found)
  exact budgetedBytes_pos (by simpa using allKnown) inhabited

/-! ## Rows -/

namespace TableSpec

/-- The listed kinds that some column takes. -/
def usedTypes (spec : TableSpec) : List SemanticType :=
  spec.types.take (min spec.columnCount.toNat spec.types.length)

section Listed

variable
    {spec : TableSpec}
    {first : SemanticType}
    {rest : List SemanticType}
    (listed : spec.types = first :: rest)
include listed

/-- Listed kinds are taken in turn, also where no column is asked for. -/
theorem expandedTypes_of_listed :
    spec.expandedTypes = .ok (cycled first rest spec.columnCount.toNat) := by
  unfold expandedTypes
  by_cases none : spec.columnCount = 0
  · rw [if_pos none, none]
    rfl
  · rw [if_neg none, listed]

theorem averageRowBytes_of_listed :
    spec.averageRowBytes =
      rowBytes (cycled first rest spec.columnCount.toNat) := by
  rw [averageRowBytes, expandedTypes_of_listed listed, bind_ok]

theorem firstUnsized_usedTypes_iff (type : SemanticType) :
    FirstUnsized (cycled first rest spec.columnCount.toNat) type ↔
      FirstUnsized spec.usedTypes type := by
  rw [firstUnsized_cycled_iff, usedTypes, ← List.take_take, List.take_length,
    listed]

/-- A row is refused over the first kind that is used and has no size. -/
theorem averageRowBytes_eq_error_iff {error : SpecError} :
    spec.averageRowBytes = .error error ↔
      ∃ type, FirstUnsized spec.usedTypes type ∧ error = .notImplemented ⟨type⟩ := by
  rw [averageRowBytes_of_listed listed, rowBytes_eq_error_iff]
  simp only [firstUnsized_usedTypes_iff listed]

/-- Else it is budgeted for the kinds of every round and of the rest. -/
theorem averageRowBytes_eq_ok_iff
    {rounds left bytes : Nat}
    (divided :
      spec.columnCount.toNat = rounds * spec.types.length + left)
    (early : left < spec.types.length) :
    spec.averageRowBytes = .ok bytes ↔
      (∀ type, ¬ FirstUnsized spec.usedTypes type) ∧
        bytes =
          rounds * budgetedBytes spec.types +
            budgetedBytes (spec.types.take left) := by
  have total :
      budgetedBytes (cycled first rest spec.columnCount.toNat) =
        rounds * budgetedBytes spec.types +
          budgetedBytes (spec.types.take left) := by
    rw [divided, listed]
    exact budgetedBytes_cycled first rest rounds (listed ▸ early.le)
  rw [averageRowBytes_of_listed listed, rowBytes_eq_ok_iff, total]
  simp only [firstUnsized_usedTypes_iff listed]

theorem averageRowBytes_pos
    {bytes : Nat}
    (columns : spec.columnCount ≠ 0)
    (averaged : spec.averageRowBytes = .ok bytes) :
    0 < bytes := by
  rw [averageRowBytes_of_listed listed] at averaged
  refine rowBytes_pos averaged ?_
  rw [length_cycled]
  exact Nat.pos_of_ne_zero fun zero => columns (UInt64.toNat_inj.1 zero)

end Listed

variable {spec : TableSpec}

theorem rowCount_eq_error_iff {error : SpecError} :
    spec.rowCount = .error error ↔ spec.averageRowBytes = .error error := by
  cases averaged : spec.averageRowBytes with
  | error cause => rw [rowCount, averaged, bind_error]
  | ok bytes =>
      rw [rowCount_of_averageRowBytes averaged]
      constructor
      · intro refused
        cases refused
      · intro refused
        cases refused

/-- The whole rows of a budget are pinned from both sides. -/
theorem pinned_iff
    {bytes total count : Nat}
    (positive : 0 < bytes) :
    count * bytes ≤ total ∧ total < (count + 1) * bytes ↔
      count = total / bytes := by
  rw [eq_comm, Nat.div_eq_iff positive, Nat.succ_mul]
  omega

/--
How the columns of a request come in whole rounds and a rest, what a row of
them is budgeted for, and how many rows the bytes allow.
-/
structure CountedInRounds (spec : TableSpec) (rounds left : Nat) : Prop where
  /-- The columns take the listed kinds in turn. -/
  expanded :
    ∃ types,
      spec.expandedTypes = .ok types ∧
        types.length = spec.columnCount.toNat ∧
          ∀ place,
            place < spec.columnCount.toNat →
              types[place]? = spec.types[place % spec.types.length]?
  refused :
    ∀ error,
      spec.averageRowBytes = .error error ↔
        ∃ type, FirstUnsized spec.usedTypes type ∧ error = .notImplemented ⟨type⟩
  budgeted :
    ∀ bytes,
      spec.averageRowBytes = .ok bytes ↔
        (∀ type, ¬ FirstUnsized spec.usedTypes type) ∧
          bytes =
            rounds * budgetedBytes spec.types +
              budgetedBytes (spec.types.take left)
  /-- Rows cannot be counted exactly where a row has no budget. -/
  uncounted :
    ∀ error, spec.rowCount = .error error ↔ spec.averageRowBytes = .error error
  noColumns : spec.columnCount = 0 → spec.rowCount = .ok 0
  /-- There are as many rows as the bytes allow, and that is one number. -/
  counted :
    spec.columnCount ≠ 0 →
      ∀ bytes,
        spec.averageRowBytes = .ok bytes →
          ∃ rows,
            spec.rowCount = .ok rows ∧
              ∀ count,
                count * bytes ≤ spec.tableBytes.toNat ∧
                    spec.tableBytes.toNat < (count + 1) * bytes ↔
                  count = rows

/--
A request that lists kinds has its columns in whole rounds of the list and a
rest.  It is refused over the first kind that is used and has no size; else a
row is budgeted for the list in every round and for the rest, and the rows are
as many as the bytes allow.
-/
theorem counted_in_rounds
    {rounds left : Nat}
    (divided :
      spec.columnCount.toNat = rounds * spec.types.length + left)
    (early : left < spec.types.length) :
    spec.CountedInRounds rounds left := by
  obtain ⟨first, rest, listed⟩ : ∃ first rest, spec.types = first :: rest :=
    List.exists_cons_of_length_pos (Nat.zero_lt_of_lt early)
  constructor
  case expanded =>
    refine ⟨_, expandedTypes_of_listed listed, length_cycled first rest _, ?_⟩
    intro place inside
    rw [listed]
    exact cycled_getElem? first rest _ inside
  case refused =>
    intro error
    exact averageRowBytes_eq_error_iff listed
  case budgeted =>
    intro bytes
    exact averageRowBytes_eq_ok_iff listed divided early
  case uncounted =>
    intro error
    exact rowCount_eq_error_iff
  case noColumns =>
    intro none
    have nothing : spec.averageRowBytes = .ok 0 := by
      rw [averageRowBytes_of_listed listed, none]
      rfl
    rw [rowCount_of_averageRowBytes nothing, Nat.div_zero]
  case counted =>
    intro columns bytes averaged
    refine ⟨_, rowCount_of_averageRowBytes averaged, ?_⟩
    intro count
    exact pinned_iff (averageRowBytes_pos listed columns averaged)

/--
Seven columns take two rounds of three kinds and one kind more, 42 bytes a row,
so a thousand bytes allow 23 rows.
-/
theorem counted_in_rounds_seven :
    let spec : TableSpec :=
      ⟨[.fixed .int32, .string, .fixed .bool], 7, 1000, none, .standard⟩
    spec.averageRowBytes = .ok 42 ∧ spec.rowCount = .ok 23 := by
  intro spec
  have law : spec.CountedInRounds 2 1 := counted_in_rounds rfl (by decide)
  have sized : ∀ type, ¬ FirstUnsized spec.usedTypes type := by
    intro type first
    have found := find?_eq_some_iff_firstUnsized.2 first
    cases found
  have averaged : spec.averageRowBytes = .ok 42 := (law.budgeted 42).2 ⟨sized, rfl⟩
  rcases law.counted (by decide) 42 averaged with ⟨rows, counted, pinned⟩
  have rowsEqual : 23 = rows := (pinned 23).1 (by decide)
  exact ⟨averaged, rowsEqual ▸ counted⟩

end TableSpec

end SyntheticTable
