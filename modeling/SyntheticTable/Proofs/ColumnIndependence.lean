import SyntheticTable.Proofs.GeneratedTable
import SyntheticTable.Proofs.NullChance

/-!
# Columns do not depend on each other

The seed of a column is the word of the master engine at its place, and the
column is drawn from an engine of its own.  So two tables agree in a column as
soon as they agree in what shapes it: the seed, the parameters, the rows and
the kind at its place.  What stands beside the column, how many columns there
are, how many bytes were asked for and who built what do not matter.
-/

namespace SyntheticTable

/-! ## Shapes that mean the same -/

/-- Frequencies that are the same number make values null by the same rule. -/
theorem NullRule.ofFrequency?_of_sameNumber
    {left right : Single}
    (same : left.sameNumber right = true) :
    NullRule.ofFrequency? left = NullRule.ofFrequency? right := by
  rw [Single.sameNumber, Bool.and_eq_true, Bool.or_eq_true] at same
  rcases same.2 with equal | zeros
  · rcases left with ⟨leftBits⟩
    rcases right with ⟨rightBits⟩
    cases eq_of_beq equal
    rfl
  · rw [Bool.and_eq_true] at zeros
    rw [ofFrequency?_of_isZero zeros.1, ofFrequency?_of_isZero zeros.2]

/-- Two shapes ask for the same: they are equal, their null frequencies as numbers. -/
structure ColumnParams.AskSame (left right : ColumnParams) : Prop where
  nullFrequency : left.nullFrequency.sameNumber right.nullFrequency = true
  cardinality : left.cardinality = right.cardinality
  averageRunLength : left.averageRunLength = right.averageRunLength

theorem DrawPlan.of_askSame
    {left right : ColumnParams}
    {rows : Nat}
    {plan : DrawPlan}
    (same : left.AskSame right)
    (planned : DrawPlan.of left rows = .ok plan) :
    DrawPlan.of right rows = .ok plan := by
  rcases DrawPlan.of_eq_ok_iff.1 planned with ⟨nulls, ruled, rfl⟩
  refine DrawPlan.of_eq_ok_iff.2 ⟨nulls, ?_, ?_⟩
  · rw [← NullRule.ofFrequency?_of_sameNumber same.nullFrequency, ruled]
  · rw [same.cardinality, same.averageRunLength]

/-- A column depends on its shape only through the plan. -/
theorem buildColumn_of_plan
    {left right : ColumnParams}
    {rows : Nat}
    (samePlan : DrawPlan.of left rows = DrawPlan.of right rows)
    (type : SemanticType) :
    buildColumn type rows left = buildColumn type rows right := by
  cases type with
  | fixed type =>
      rw [buildColumn_fixed, buildColumn_fixed, buildValues, samePlan]
      rfl
  | string =>
      show
        (return (← buildStrings rows left).toColumn) =
          (return (← buildStrings rows right).toColumn)
      rw [buildStrings, samePlan]
      rfl
  | dictionary32 => rfl
  | list => rfl
  | struct => rfl

theorem buildColumn_of_askSame
    {left right : ColumnParams}
    {rows : Nat}
    {plan : DrawPlan}
    (same : left.AskSame right)
    (planned : DrawPlan.of left rows = .ok plan)
    (type : SemanticType) :
    buildColumn type rows left = buildColumn type rows right :=
  buildColumn_of_plan
    (planned.trans (DrawPlan.of_askSame same planned).symm) type

/-! ## Seeds -/

/-- The seeds of fewer columns are the first seeds of more. -/
theorem columnSeeds_initial
    (masterSeed : UInt32)
    {fewer more : Nat}
    (less : fewer ≤ more) :
    (columnSeeds masterSeed fewer).toList <+:
      (columnSeeds masterSeed more).toList :=
  Draw.repeated_prefix_repeated Draw.word less (Engine.seeded masterSeed)

/-- The seed at a place does not depend on how many columns there are. -/
theorem columnSeeds_getD
    (masterSeed : UInt32)
    {place left right : Nat}
    (leftInside : place < left)
    (rightInside : place < right) :
    (columnSeeds masterSeed left).getD place 0 =
      (columnSeeds masterSeed right).getD place 0 := by
  have fromShorter :
      ∀ {fewer more : Nat},
        place < fewer →
          fewer ≤ more →
            (columnSeeds masterSeed more)[place]? =
              (columnSeeds masterSeed fewer)[place]? := by
    intro fewer more inside less
    rcases columnSeeds_initial masterSeed less with ⟨others, equal⟩
    have within : place < (columnSeeds masterSeed fewer).toList.length := by
      simpa [columnSeeds] using inside
    rw [← Array.getElem?_toList, ← Array.getElem?_toList, ← equal]
    exact List.getElem?_append_left within
  rw [Array.getD_eq_getD_getElem?, Array.getD_eq_getD_getElem?]
  rcases Nat.le_total left right with less | less
  · rw [fromShorter leftInside less]
  · rw [fromShorter rightInside less]

/-! ## Columns of two tables -/

namespace TableSpec

variable
    {left right : TableSpec}
    {leftOutline rightOutline : Outline}
    {place : Nat}

/-- The column at a place is built from nothing but what shapes it. -/
theorem buildColumnAt_of_same
    {plan : DrawPlan}
    (sameSeed : left.seed = right.seed)
    (sameParams : left.params.AskSame right.params)
    (planned : DrawPlan.of left.params leftOutline.rows = .ok plan)
    (sameRows : leftOutline.rows = rightOutline.rows)
    (leftInside : place < leftOutline.types.length)
    (rightInside : place < rightOutline.types.length)
    (sameType : leftOutline.types[place] = rightOutline.types[place]) :
    left.buildColumnAt leftOutline place leftInside =
      right.buildColumnAt rightOutline place rightInside := by
  unfold buildColumnAt
  rw [columnSeeds_getD left.seed leftInside rightInside, sameSeed, sameType,
    buildColumn_of_askSame sameParams planned, sameRows]

theorem rowCount_of_generated
    {workers : Nat}
    {order : List Nat}
    {table : Table}
    (generated : left.generateInOrder workers order = .ok table)
    (outlined : left.outline = .ok leftOutline) :
    table.rowCount = leftOutline.rows := by
  cases outlined.symm.trans (outline_of_generated generated)
  rfl

theorem exists_buildColumnAt_of_generated
    {workers : Nat}
    {order : List Nat}
    {table : Table}
    {types : List SemanticType}
    {type : SemanticType}
    (generated : left.generateInOrder workers order = .ok table)
    (expanded : left.expandedTypes = .ok types)
    (found : types[place]? = some type) :
    ∃ outline plan column,
      ∃ inside : place < outline.types.length,
        outline.rows = table.rowCount ∧
          outline.types[place] = type ∧
            DrawPlan.of left.params outline.rows = .ok plan ∧
              table.columns[place]? = some column ∧
                left.buildColumnAt outline place inside = .ok column := by
  rcases
      (generateInTurn_eq_ok_iff left table).1
        (generateInTurn_of_generateInOrder generated) with
    ⟨outline, outlined, rowCount, -, eachBuilt⟩
  cases expanded.symm.trans ((outline_eq_ok_iff left outline).1 outlined).1
  rcases exists_plan_of_outline outlined outline.rows with ⟨plan, planned⟩
  rcases List.getElem?_eq_some_iff.1 found with ⟨inside, typeAt⟩
  rcases eachBuilt place inside with ⟨column, columnFound, built⟩
  exact
    ⟨outline, plan, column, inside, rowCount.symm, typeAt, planned,
      columnFound, built⟩

/--
Two generated tables have the same column at a place if they agree in the seed,
the parameters, the rows and the kind at that place.  The seeds make this
possible: those of fewer columns are the first seeds of more.
-/
theorem column_independent_of_others :
    (∀ masterSeed {fewer more : Nat},
      fewer ≤ more →
        (columnSeeds masterSeed fewer).toList <+:
          (columnSeeds masterSeed more).toList) ∧
    ∀ (left right : TableSpec)
      (leftWorkers rightWorkers : Nat)
      (leftOrder rightOrder : List Nat)
      (leftTable rightTable : Table)
      (leftTypes rightTypes : List SemanticType)
      (place : Nat)
      (type : SemanticType),
      left.generateInOrder leftWorkers leftOrder = .ok leftTable →
      right.generateInOrder rightWorkers rightOrder = .ok rightTable →
      left.seed = right.seed →
      left.params.AskSame right.params →
      leftTable.rowCount = rightTable.rowCount →
      left.expandedTypes = .ok leftTypes →
      right.expandedTypes = .ok rightTypes →
      leftTypes[place]? = some type →
      rightTypes[place]? = some type →
      ∃ column,
        leftTable.columns[place]? = some column ∧
          rightTable.columns[place]? = some column := by
  refine ⟨columnSeeds_initial, ?_⟩
  intro left right leftWorkers rightWorkers leftOrder rightOrder leftTable
    rightTable leftTypes rightTypes place type leftGenerated rightGenerated
    sameSeed sameParams sameRows leftExpanded rightExpanded leftFound rightFound
  rcases exists_buildColumnAt_of_generated leftGenerated leftExpanded leftFound with
    ⟨leftOutline, plan, leftColumn, leftInside, leftRows, leftType, planned,
      leftColumnFound, leftBuilt⟩
  rcases
      exists_buildColumnAt_of_generated rightGenerated rightExpanded rightFound with
    ⟨rightOutline, _, rightColumn, rightInside, rightRows, rightType, -,
      rightColumnFound, rightBuilt⟩
  have sameColumn :=
    buildColumnAt_of_same sameSeed sameParams planned
      (leftRows.trans (sameRows.trans rightRows.symm)) leftInside rightInside
      (leftType.trans rightType.symm)
  rw [leftBuilt, rightBuilt] at sameColumn
  cases sameColumn
  exact ⟨leftColumn, leftColumnFound, rightColumnFound⟩

/--
A table of two columns and one of three, with another budget, another written
seed and the other zero as null frequency, have the same first column.
-/
theorem column_independent_of_others_first :
    let left : TableSpec :=
      { types := [.fixed .int32, .fixed .bool]
        columnCount := 2
        tableBytes := 57
        seed? := none
        params := ⟨⟨0⟩, 3, 4⟩ }
    let right : TableSpec :=
      { types := [.fixed .int32, .fixed .int64, .fixed .decimal32]
        columnCount := 3
        tableBytes := 190
        seed? := some 13377331
        params := ⟨⟨0x8000_0000⟩, 3, 4⟩ }
    ∃ leftTable rightTable column,
      left.generate 1 = .ok leftTable ∧
        right.generate 2 = .ok rightTable ∧
          left.params.AskSame right.params ∧
            leftTable.columns[0]? = some column ∧
              rightTable.columns[0]? = some column := by
  intro left right
  have leftOutlined :
      left.outline = .ok ⟨[.fixed .int32, .fixed .bool], 11⟩ := by
    show TableSpec.outline ⟨[.fixed .int32, .fixed .bool], 2, 57, none, _⟩ = _
    rfl
  have rightOutlined :
      right.outline =
        .ok ⟨[.fixed .int32, .fixed .int64, .fixed .decimal32], 11⟩ := by
    show
      TableSpec.outline
        ⟨[.fixed .int32, .fixed .int64, .fixed .decimal32], 3, 190, _, _⟩ = _
    rfl
  have sameParams : left.params.AskSame right.params :=
    ⟨by decide +kernel, rfl, rfl⟩
  rcases exists_generated_of_fixed (by decide) leftOutlined (by simp; decide) 1 with
    ⟨leftTable, leftGenerated⟩
  rcases exists_generated_of_fixed (by decide) rightOutlined (by simp; decide) 2 with
    ⟨rightTable, rightGenerated⟩
  have leftExpanded := ((outline_eq_ok_iff left _).1 leftOutlined).1
  have rightExpanded := ((outline_eq_ok_iff right _).1 rightOutlined).1
  have sameRows : leftTable.rowCount = rightTable.rowCount :=
    (rowCount_of_generated leftGenerated leftOutlined).trans
      (rowCount_of_generated rightGenerated rightOutlined).symm
  rcases
      column_independent_of_others.2 left right 1 2 _ _ leftTable rightTable _ _
        0 (.fixed .int32) leftGenerated rightGenerated rfl sameParams sameRows
        leftExpanded rightExpanded rfl rfl with
    ⟨column, leftFound, rightFound⟩
  exact
    ⟨leftTable, rightTable, column, leftGenerated, rightGenerated, sameParams,
      leftFound, rightFound⟩

end TableSpec

end SyntheticTable
