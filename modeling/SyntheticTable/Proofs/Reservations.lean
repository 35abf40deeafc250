import SyntheticTable.Proofs.BudgetInRounds
import SyntheticTable.Proofs.Refusals

/-!
# Sizes that are reserved for texts

Before a string column is begun, the expected size of its texts is worked out:
sixteen characters a row.  But a text is budgeted for fourteen bytes, so there
can be more rows than the size of their texts can be counted for.  This takes a
row of less than sixteen bytes, which is a string column alone or beside one
column of single bytes, and a budget of `2 ^ 60` rows.  Then the task of the
column breaks off, although nothing was drawn that could be too long.
-/

namespace SyntheticTable

/--
The sizes that are worked out for a string column with some rows, and with a
pool of some texts, can be counted.
-/
structure ReservationsCounted (rows poolSize : Nat) : Prop where
  chars : rows * averageStringLength ≤ largestCount
  offsets : rows + 1 ≤ largestCount
  poolChars : poolSize * averageStringLength ≤ largestCount

/-- The expected size of some texts can be counted if there are less than `2 ^ 60`. -/
theorem chars_counted_iff (texts : Nat) :
    texts * averageStringLength ≤ largestCount ↔ texts < twoTo 60 := by
  show texts * 16 ≤ 16 * twoTo 60 - 1 ↔ _
  have positive : 0 < twoTo 60 := Nat.two_pow_pos 60
  omega

theorem reservationsCounted_iff
    {rows poolSize : Nat}
    (pooled : poolSize ≤ rows) :
    ReservationsCounted rows poolSize ↔ rows < twoTo 60 := by
  have reachable : twoTo 60 ≤ largestCount := by decide
  constructor
  · intro counted
    exact (chars_counted_iff rows).1 counted.chars
  · intro few
    exact
      { chars := (chars_counted_iff rows).2 few
        offsets := few.trans_le reachable
        poolChars := (chars_counted_iff poolSize).2 (pooled.trans_lt few) }

/-- A string column whose sizes cannot be counted is not begun. -/
theorem stringsFit_of_uncounted
    {rows poolSize : Nat}
    (pooled : poolSize ≤ rows)
    (uncounted : ¬ ReservationsCounted rows poolSize) :
    stringsFit rows = false := by
  rw [reservationsCounted_iff pooled, ← chars_counted_iff] at uncounted
  simp [stringsFit, uncounted]

/-! ## Rows with few bytes -/

theorem length_le_budgetedBytes
    {types : List SemanticType}
    (implemented : ∀ type ∈ types, type.isImplemented = true) :
    types.length ≤ budgetedBytes types := by
  induction types with
  | nil => exact Nat.zero_le _
  | cons type types inductionHypothesis =>
      have first := SemanticType.averageBytes_pos (implemented type List.mem_cons_self)
      have others :=
        inductionHypothesis fun type member =>
          implemented type (List.mem_cons_of_mem _ member)
      rw [budgetedBytes] at others ⊢
      rw [List.map_cons, List.sum_cons, List.length_cons]
      omega

/-- Beside a string column every other column takes at least one byte. -/
theorem length_add_le_budgetedBytes
    {types : List SemanticType}
    (implemented : ∀ type ∈ types, type.isImplemented = true)
    (strings : .string ∈ types) :
    types.length + 13 ≤ budgetedBytes types := by
  obtain ⟨earlier, later, rfl⟩ := List.append_of_mem strings
  have before :=
    length_le_budgetedBytes fun type member =>
      implemented type (List.mem_append_left _ member)
  have after :=
    length_le_budgetedBytes fun type member =>
      implemented type (List.mem_append_right earlier (List.mem_cons_of_mem _ member))
  have string : budgetedBytes (.string :: later) = 14 + budgetedBytes later := rfl
  rw [budgetedBytes_append, string, List.length_append, List.length_cons]
  omega

namespace TableSpec

variable
    {spec : TableSpec}
    {outline : Outline}

theorem rows_of_outline
    (outlined : spec.outline = .ok outline) :
    spec.averageRowBytes = .ok (budgetedBytes outline.types) ∧
      outline.rows = spec.tableBytes.toNat / budgetedBytes outline.types := by
  rcases (outline_eq_ok_iff spec outline).1 outlined with
    ⟨expanded, implemented, -, counted⟩
  have averaged := averageRowBytes_of_expandedTypes expanded implemented
  refine ⟨averaged, ?_⟩
  rw [rowCount_of_averageRowBytes averaged] at counted
  exact (Except.ok.inj counted).symm

/--
A table with a string column that is not begun breaks off, whichever column
fails first.
-/
theorem generate_eq_taskFailed
    (outlined : spec.outline = .ok outline)
    (strings : .string ∈ outline.types)
    (small : spec.columnCount.toNat ≤ largestCount / 2)
    (unfit : stringsFit outline.rows = false)
    (workers : Nat) :
    ∃ chunk, spec.generate workers = .error (.taskFailed chunk) := by
  have inTurn := generate_mapError spec small workers
  have implemented := ((outline_eq_ok_iff spec outline).1 outlined).2.1
  obtain ⟨plan, planned⟩ := exists_plan_of_outline outlined outline.rows
  cases generated : spec.generate workers with
  | ok table =>
      rw [generated, mapError_ok, eq_comm, generateInTurn_eq_ok_iff] at inTurn
      obtain ⟨others, sameOutline, -, -, eachBuilt⟩ := inTurn
      cases outlined.symm.trans sameOutline
      obtain ⟨place, inside, string⟩ := List.getElem_of_mem strings
      obtain ⟨column, -, built⟩ := eachBuilt place inside
      rw [buildColumnAt, string] at built
      obtain ⟨-, -, fit, -⟩ := (buildColumn_string_eq_ok_iff _ _ _).1 built
      cases unfit.symm.trans fit
  | error error =>
      rw [generated, mapError_error, eq_comm,
        generateInTurn_eq_error_iff outlined] at inTurn
      obtain ⟨place, inside, cause, failed, equal, -⟩ := inTurn
      have tooLarge : cause = .bufferTooLarge := by
        rcases
            buildColumn_eq_error _ _ _
              (implemented _ (List.getElem_mem inside)) planned failed with
          ⟨-, large⟩ | ⟨string, bytes, -, overflow⟩
        · exact large
        · -- A string column is not begun, so no text of it is too long.
          rw [buildColumnAt, buildColumn_run _ _ _ (implemented _ (List.getElem_mem inside)),
            planned, string] at failed
          simpa [SemanticType.fits, unfit, eq_comm] using failed
      rw [tooLarge] at equal
      cases error with
      | taskFailed chunk => exact ⟨chunk, rfl⟩
      | spec cause => cases equal
      | build cause => cases equal
      | chunkOverflow => cases equal

/--
For a request that passed the checks and has a string column, the sizes that
are reserved for its texts and for its pool can be counted exactly if its bytes
stay below those of `2 ^ 60` rows.  A row of sixteen bytes or more never gets
there.  Where they cannot be counted, there are at most two columns, no string
column is begun, and the task breaks off for any number of workers.
-/
theorem string_reservations_counted_iff
    (outlined : spec.outline = .ok outline)
    (strings : .string ∈ outline.types) :
    ∃ rowBudget plan,
      spec.averageRowBytes = .ok rowBudget ∧
        outline.rows = spec.tableBytes.toNat / rowBudget ∧
        DrawPlan.of spec.params outline.rows = .ok plan ∧
        (ReservationsCounted outline.rows plan.poolSize ↔
          spec.tableBytes.toNat < twoTo 60 * rowBudget) ∧
        (16 ≤ rowBudget → ReservationsCounted outline.rows plan.poolSize) ∧
        (¬ ReservationsCounted outline.rows plan.poolSize →
          outline.types.length ≤ 2 ∧
            (∀ engine,
              (buildColumn .string outline.rows spec.params).run.run engine =
                (.error .bufferTooLarge, engine)) ∧
            ∀ workers,
              ∃ chunk, spec.generate workers = .error (.taskFailed chunk)) := by
  obtain ⟨averaged, rows⟩ := rows_of_outline outlined
  have checks := (outline_eq_ok_iff spec outline).1 outlined
  have columns := length_add_le_budgetedBytes checks.2.1 strings
  obtain ⟨plan, planned⟩ := exists_plan_of_outline outlined outline.rows
  have pooled : plan.poolSize ≤ outline.rows := by
    obtain ⟨nulls, -, rfl⟩ := DrawPlan.of_eq_ok_iff.1 planned
    exact Nat.min_le_right _ _
  have counted :
      ReservationsCounted outline.rows plan.poolSize ↔
        spec.tableBytes.toNat < twoTo 60 * budgetedBytes outline.types := by
    rw [reservationsCounted_iff pooled, rows, Nat.div_lt_iff_lt_mul (by omega)]
  have bytes : spec.tableBytes.toNat < 16 * twoTo 60 := spec.tableBytes.toNat_lt
  have ofWideRow :
      16 ≤ budgetedBytes outline.types →
        spec.tableBytes.toNat < twoTo 60 * budgetedBytes outline.types := by
    intro wide
    calc spec.tableBytes.toNat < 16 * twoTo 60 := bytes
      _ = twoTo 60 * 16 := Nat.mul_comm _ _
      _ ≤ twoTo 60 * budgetedBytes outline.types := Nat.mul_le_mul_left _ wide
  refine
    ⟨_, plan, averaged, rows, planned, counted, fun wide => counted.2 (ofWideRow wide), ?_⟩
  intro uncounted
  have narrow : budgetedBytes outline.types < 16 :=
    Nat.lt_of_not_le fun wide => uncounted (counted.2 (ofWideRow wide))
  have unfit := stringsFit_of_uncounted pooled uncounted
  have few : outline.types.length ≤ 2 := by omega
  refine ⟨few, ?_, ?_⟩
  · intro engine
    rw [buildColumn_run _ _ _ rfl, planned]
    simp [SemanticType.fits, unfit]
  · intro workers
    refine generate_eq_taskFailed outlined strings ?_ unfit workers
    rw [← length_expandedTypes checks.1]
    exact few.trans (by decide)

/--
One byte less than `2 ^ 60` rows of a string and a truth value take: the sizes
can still be counted.
-/
theorem string_reservations_counted_iff_fifteen :
    let spec : TableSpec :=
      ⟨[.string, .fixed .bool], 2, 0xEFFF_FFFF_FFFF_FFFF, none, .standard⟩
    ∃ outline plan,
      spec.outline = .ok outline ∧
        .string ∈ outline.types ∧
        spec.averageRowBytes = .ok 15 ∧
        DrawPlan.of spec.params outline.rows = .ok plan ∧
        ReservationsCounted outline.rows plan.poolSize := by
  intro spec
  have outlined :
      spec.outline = .ok ⟨[.string, .fixed .bool], 1152921504606846975⟩ := by
    show
      TableSpec.outline
        ⟨[.string, .fixed .bool], 2, 0xEFFF_FFFF_FFFF_FFFF, none, .standard⟩ = _
    rfl
  have fifteen : spec.averageRowBytes = .ok 15 := by rfl
  have strings : .string ∈ [.string, SemanticType.fixed .bool] := List.mem_cons_self
  obtain ⟨rowBudget, plan, averaged, -, planned, counted, -⟩ :=
    string_reservations_counted_iff outlined strings
  cases fifteen.symm.trans averaged
  exact ⟨_, plan, outlined, strings, fifteen, planned, counted.2 (by decide)⟩

/--
With all the bytes there are, a string column alone has more rows than the size
of their texts can be counted for, and its task breaks off.
-/
theorem string_reservations_overflow :
    let spec : TableSpec :=
      ⟨[.string], 1, 0xFFFF_FFFF_FFFF_FFFF, none, .standard⟩
    spec.outline = .ok ⟨[.string], 1317624576693539401⟩ ∧
      largestCount < 1317624576693539401 * averageStringLength ∧
      stringsFit 1317624576693539401 = false ∧
      ∃ chunk, spec.generate 1 = .error (.taskFailed chunk) := by
  intro spec
  have outlined : spec.outline = .ok ⟨[.string], 1317624576693539401⟩ := by
    show TableSpec.outline ⟨[.string], 1, 0xFFFF_FFFF_FFFF_FFFF, none, .standard⟩ = _
    rfl
  have unfit : stringsFit 1317624576693539401 = false := by decide
  refine ⟨outlined, by decide, unfit, ?_⟩
  exact generate_eq_taskFailed outlined List.mem_cons_self (by decide) unfit 1

end TableSpec

end SyntheticTable
