import SyntheticTable.Proofs.BuiltColumn
import SyntheticTable.Proofs.NullChance
import SyntheticTable.Proofs.RowBudget
import SyntheticTable.Proofs.WorkerIndependence

/-!
# When no table is generated

A request is refused up front for one of three reasons, which are looked at in
this order: columns are asked for but no kinds are listed, a kind that is used
cannot be drawn, or the null frequency is no chance.  The same conditions are
met again while the bytes of a row are counted and each column is built, but
what passed up front passes there as well.  So once columns are built, only
texts that are too long for the offsets and tasks that break off are left.
-/

namespace SyntheticTable

/-- The kinds that can be named but not drawn. -/
def SemanticType.undrawable : List SemanticType :=
  [dictionary32, list, struct]

theorem SemanticType.isImplemented_eq (type : SemanticType) :
    type.isImplemented = !decide (type ∈ undrawable) := by
  cases type <;> simp [isImplemented, undrawable]

namespace TableSpec

/-- The first of the listed kinds that are used and cannot be drawn. -/
def firstUndrawable? (spec : TableSpec) : Option SemanticType :=
  (spec.types.take spec.columnCount.toNat).find? fun type =>
    type ∈ SemanticType.undrawable

variable
    {spec : TableSpec}
    {outline : Outline}
    {types : List SemanticType}
    {workers : Nat}
    {order : List Nat}
    {error : GenerateError}

/-! ## Checks up front -/

/-- The kinds of the columns are searched in the order in which they are listed. -/
theorem find?_undrawable
    (expanded : spec.expandedTypes = .ok types) :
    (types.find? fun type => !type.isImplemented) = spec.firstUndrawable? := by
  rw [find?_expandedTypes expanded, firstUndrawable?]
  congr 1
  funext type
  rw [SemanticType.isImplemented_eq, Bool.not_not]

theorem exists_expandedTypes
    (listed : ¬ spec.LacksTypes) :
    ∃ types, spec.expandedTypes = .ok types := by
  cases expanded : spec.expandedTypes with
  | ok types => exact ⟨types, rfl⟩
  | error error => exact (listed (expandedTypes_eq_error_iff.1 expanded).1).elim

theorem outline_of_lacksTypes
    (lacks : spec.LacksTypes) :
    spec.outline =
      .error (.spec (.emptyTypeList spec.columnCount.toNat)) := by
  rw [TableSpec.outline, expandedTypes_eq_error_iff.2 ⟨lacks, rfl⟩]
  rfl

theorem outline_of_undrawable
    {type : SemanticType}
    (listed : ¬ spec.LacksTypes)
    (first : spec.firstUndrawable? = some type) :
    spec.outline = .error (.build (.notImplemented ⟨type⟩)) := by
  rcases exists_expandedTypes listed with ⟨types, expanded⟩
  have found := (find?_undrawable expanded).trans first
  rw [TableSpec.outline, expanded]
  simp only [mapError_ok, bind_ok, found]
  rfl

theorem outline_of_noChance
    (listed : ¬ spec.LacksTypes)
    (drawable : spec.firstUndrawable? = none)
    (noChance : ¬ spec.params.nullFrequency.IsChance) :
    spec.outline =
      .error (.build (.invalidNullFrequency spec.params.nullFrequency)) := by
  rcases exists_expandedTypes listed with ⟨types, expanded⟩
  have found := (find?_undrawable expanded).trans drawable
  have unplanned :=
    (DrawPlan.of_eq_error_iff spec.params 0 _).2 ⟨noChance, rfl⟩
  rw [TableSpec.outline, expanded]
  simp only [mapError_ok, bind_ok, found, unplanned]
  rfl

/-- A request passes the checks if none of the three faults is there. -/
theorem exists_outline
    (listed : ¬ spec.LacksTypes)
    (drawable : spec.firstUndrawable? = none)
    (chance : spec.params.nullFrequency.IsChance) :
    ∃ outline, spec.outline = .ok outline := by
  rcases exists_expandedTypes listed with ⟨types, expanded⟩
  have found := (find?_undrawable expanded).trans drawable
  have implemented : ∀ type ∈ types, type.isImplemented = true := by
    simpa using found
  have counted :
      spec.rowCount =
        .ok (spec.tableBytes.toNat / budgetedBytes types) :=
    rowCount_of_averageRowBytes
      (averageRowBytes_of_expandedTypes expanded implemented)
  exact
    ⟨⟨types, _⟩, (outline_eq_ok_iff spec _).2
      ⟨expanded, implemented, (DrawPlan.exists_of_iff spec.params 0).2 chance,
        counted⟩⟩

/-! ## Faults while columns are built -/

/--
A column of a request that passed the checks is not built only where its
buffers cannot be addressed or its texts are too long for the offsets.
-/
theorem buildColumn_eq_error_of_outline
    (outlined : spec.outline = .ok outline)
    {type : SemanticType}
    {rows : Nat}
    {engine : Engine}
    {cause : BuildError}
    (used : type ∈ outline.types)
    (failed :
      ((buildColumn type rows spec.params).run.run engine).1 = .error cause) :
    cause = .bufferTooLarge ∨
      type = .string ∧
        ∃ bytes, twoTo 31 ≤ bytes ∧ cause = .textOverflow bytes := by
  have implemented := ((outline_eq_ok_iff spec outline).1 outlined).2.1
  rcases exists_plan_of_outline outlined rows with ⟨plan, planned⟩
  rcases
      buildColumn_eq_error rows spec.params engine (implemented type used)
        planned failed with
    ⟨-, tooLarge⟩ | overflow
  · exact .inl tooLarge
  · exact .inr overflow

theorem mem_types_of_mem_extract
    {chunk : Chunk}
    {type : SemanticType}
    {seed : UInt32}
    (member :
      (type, seed) ∈
        ((spec.seededTypes outline).extract chunk.start chunk.stop).toList) :
    type ∈ outline.types := by
  rw [seededTypes, Array.toList_extract, List.extract_eq_take_drop] at member
  have listed := List.mem_of_mem_drop (List.mem_of_mem_take member)
  rw [Array.toList_zip] at listed
  exact (List.of_mem_zip listed).1

/--
A request that passed the checks fails only over too much text, over a task
that broke off, or before any task if the ends of the chunks cannot be counted.
-/
theorem generateInOrder_eq_error_of_outline
    (outlined : spec.outline = .ok outline)
    (failed : spec.generateInOrder workers order = .error error) :
    (.string ∈ outline.types ∧
        ∃ bytes, twoTo 31 ≤ bytes ∧ error = .build (.textOverflow bytes)) ∨
      (∃ chunk, error = .taskFailed chunk) ∨
        largestCount / 2 < spec.columnCount.toNat ∧ error = .chunkOverflow := by
  cases cut : chunks? outline.types.length workers with
  | none =>
      have count :=
        length_expandedTypes ((outline_eq_ok_iff spec outline).1 outlined).1
      have large : largestCount / 2 < spec.columnCount.toNat := by
        apply Nat.lt_of_not_le
        intro small
        rcases chunks?_isSome (count ▸ small) workers with ⟨chunks, others⟩
        cases cut.symm.trans others
      rw [generateInOrder_of_uncut outlined cut] at failed
      cases failed
      exact .inr (.inr ⟨large, rfl⟩)
  | some chunks =>
      rw [generateInOrder_of_outline outlined cut, map_eq_error_iff] at failed
      rcases gather_eq_error failed with broken | ⟨cause, filed, addressable, rfl⟩
      · exact .inr (.inl broken)
      · rcases exists_task_of_mem_runTasks filed with ⟨task, taskMember, notBuilt⟩
        rcases Array.mem_map.1 taskMember with ⟨chunk, -, rfl⟩
        rcases exists_of_mapM_eq_error notBuilt with
          ⟨⟨type, seed⟩, member, columnFailed⟩
        have used := mem_types_of_mem_extract member
        rcases buildColumn_eq_error_of_outline outlined used columnFailed with
          tooLarge | ⟨rfl, bytes, many, rfl⟩
        · exact (addressable tooLarge).elim
        · exact .inl ⟨used, bytes, many, rfl⟩

/-- No fault that is looked for up front turns up later. -/
theorem error_ne_of_outline
    (outlined : spec.outline = .ok outline)
    (failed : spec.generateInOrder workers order = .error error) :
    (∀ cause, error ≠ .spec cause) ∧
      (∀ cause, error ≠ .build (.notImplemented cause)) ∧
        ∀ frequency, error ≠ .build (.invalidNullFrequency frequency) := by
  rcases generateInOrder_eq_error_of_outline outlined failed with
    ⟨-, bytes, -, rfl⟩ | ⟨chunk, rfl⟩ | ⟨-, rfl⟩
  · exact ⟨nofun, nofun, nofun⟩
  · exact ⟨nofun, nofun, nofun⟩
  · exact ⟨nofun, nofun, nofun⟩

/-! ## All failures -/

/--
When a request makes no table and why, for any number of workers and whichever
tasks are done in whatever order.  No kinds are listed for the columns; or the
first undrawable kind that is used is named, while those that are listed beyond
the columns do not matter; or the null frequency is no chance, even where there
are no columns or no rows.

Otherwise no column is refused over its kind or its shape, and only too much
text and tasks that break off are left as errors.  With more columns than half
of what can be counted, counting the chunks may break off before.
-/
theorem failures_of_generate
    (spec : TableSpec)
    (workers : Nat)
    (order : List Nat) :
    (∀ columns,
      spec.generateInOrder workers order =
          .error (.spec (.emptyTypeList columns)) ↔
        spec.LacksTypes ∧ columns = spec.columnCount.toNat) ∧
    (∀ type,
      spec.generateInOrder workers order =
          .error (.build (.notImplemented ⟨type⟩)) ↔
        ¬ spec.LacksTypes ∧ spec.firstUndrawable? = some type) ∧
    (∀ frequency,
      spec.generateInOrder workers order =
          .error (.build (.invalidNullFrequency frequency)) ↔
        ¬ spec.LacksTypes ∧
          spec.firstUndrawable? = none ∧
            ¬ spec.params.nullFrequency.IsChance ∧
              frequency = spec.params.nullFrequency) ∧
    (¬ spec.LacksTypes →
      spec.firstUndrawable? = none →
      spec.params.nullFrequency.IsChance →
        ∃ outline,
          spec.outline = .ok outline ∧
            (∀ type ∈ outline.types,
              ∀ rows engine cause,
                ((buildColumn type rows spec.params).run.run engine).1 =
                    .error cause →
                  cause = .bufferTooLarge ∨
                    type = .string ∧
                      ∃ bytes,
                        twoTo 31 ≤ bytes ∧ cause = .textOverflow bytes) ∧
            ∀ error,
              spec.generateInOrder workers order = .error error →
                (.string ∈ outline.types ∧
                    ∃ bytes,
                      twoTo 31 ≤ bytes ∧ error = .build (.textOverflow bytes)) ∨
                  (∃ chunk, error = .taskFailed chunk) ∨
                    largestCount / 2 < spec.columnCount.toNat ∧
                      error = .chunkOverflow) := by
  by_cases lacks : spec.LacksTypes
  · have failed : spec.generateInOrder workers order = _ :=
      generateInOrder_of_refused (outline_of_lacksTypes lacks)
    simp [failed, lacks, eq_comm]
  · cases first : spec.firstUndrawable? with
    | some type =>
        have failed : spec.generateInOrder workers order = _ :=
          generateInOrder_of_refused (outline_of_undrawable lacks first)
        simp [failed, lacks]
    | none =>
        by_cases chance : spec.params.nullFrequency.IsChance
        · rcases exists_outline lacks first chance with ⟨outline, outlined⟩
          refine ⟨?_, ?_, ?_, ?_⟩
          · intro columns
            refine iff_of_false ?_ fun fault => lacks fault.1
            exact fun failed => (error_ne_of_outline outlined failed).1 _ rfl
          · intro type
            refine iff_of_false ?_ fun fault => nomatch fault.2
            exact fun failed => (error_ne_of_outline outlined failed).2.1 _ rfl
          · intro frequency
            refine iff_of_false ?_ fun fault => fault.2.2.1 chance
            exact fun failed => (error_ne_of_outline outlined failed).2.2 _ rfl
          · intro _ _ _
            refine ⟨outline, outlined, ?_, ?_⟩
            · intro type used rows engine cause failed
              exact buildColumn_eq_error_of_outline outlined used failed
            · intro error failed
              exact generateInOrder_eq_error_of_outline outlined failed
        · have failed : spec.generateInOrder workers order = _ :=
            generateInOrder_of_refused (outline_of_noChance lacks first chance)
          simp [failed, lacks, chance, eq_comm]

/--
A column of numbers is asked for with more rows than can be addressed, so its
task breaks off, and the structures that are listed behind it do not matter.
With two columns they do.
-/
theorem failures_of_generate_two :
    let spec : TableSpec :=
      { types := [.fixed .int64, .struct]
        columnCount := 1
        tableBytes := 0xFFFF_FFFF_FFFF_FFFF
        seed? := none
        params := .standard }
    (∃ error,
      spec.generate 1 = .error error ∧
        ∃ chunk, error = .taskFailed chunk) ∧
      { spec with columnCount := 2 }.generate 1 =
        .error (.build (.notImplemented ⟨.struct⟩)) := by
  intro spec
  have outlined :
      spec.outline = .ok ⟨[.fixed .int64], 2305843009213693951⟩ := by
    show
      TableSpec.outline
        ⟨[.fixed .int64, .struct], 1, 0xFFFF_FFFF_FFFF_FFFF, none, .standard⟩ = _
    rfl
  constructor
  · cases generated : spec.generate 1 with
    | ok table =>
        rcases
            (generateInTurn_eq_ok_iff spec table).1
              (generateInTurn_of_generateInOrder generated) with
          ⟨outline, others, -, -, eachBuilt⟩
        cases outlined.symm.trans others
        rcases eachBuilt 0 (by decide) with ⟨column, -, built⟩
        rcases (buildColumn_eq_ok_iff _ _ _).1 built with ⟨-, -, fit, -⟩
        cases fit
    | error error =>
        have chance : spec.params.nullFrequency.IsChance :=
          (DrawPlan.exists_of_iff _ 0).1
            ((outline_eq_ok_iff spec _).1 outlined).2.2.1
        rcases
            (failures_of_generate spec 1 _).2.2.2
              (by simp [LacksTypes, spec]) (by rfl) chance with
          ⟨outline, others, -, errors⟩
        cases outlined.symm.trans others
        rcases errors error generated with ⟨strings, -⟩ | ⟨chunk, broken⟩ | ⟨large, -⟩
        · simp at strings
        · exact ⟨error, rfl, chunk, broken⟩
        · exact (Nat.not_lt.2 (by decide) large).elim
  · refine ((failures_of_generate _ 1 _).2.1 .struct).2 ⟨?_, ?_⟩
    · simp [LacksTypes, spec]
    · rfl

end TableSpec

end SyntheticTable
