import SyntheticTable.Proofs.Generators
import SyntheticTable.Proofs.HeldRows

/-!
# Columns that were built

A column is built from a plan, if the shape is a possible one and the buffers
can be addressed: the runs of the plan are drawn, and the column holds the
rows of their cells.  Whatever a column of a kind is laid out in, what is drawn
for a row is a cell of that kind, so columns of all kinds are read in one way.
-/

namespace SyntheticTable

namespace SemanticType

/-- What is drawn for a row of a column; nothing where columns cannot be built. -/
abbrev Cell : SemanticType → Type
  | .fixed type => Option type.Value
  | .string => TextCell
  | _ => Unit

/-- Draws a cell. -/
def drawCell : (type : SemanticType) → NullRule → Draw type.Cell
  | .fixed type, nulls => drawValueCell type.draw nulls
  | .string, nulls => drawTextCell textLengths nulls
  | .dictionary32, _ | .list, _ | .struct, _ => return ()

/-- The row of a cell. -/
def cellRow : (type : SemanticType) → type.Cell → ColumnRow
  | .fixed type, cell => type.cellRow cell
  | .string, cell => cell.row
  | .dictionary32, _ | .list, _ | .struct, _ => ⟨[], false⟩

/-- Whether the buffers of a column can be addressed. -/
def fits : SemanticType → (rows : Nat) → Bool
  | .fixed type, rows => valuesFit type rows
  | .string, rows => stringsFit rows
  | .dictionary32, _ | .list, _ | .struct, _ => true

/-- The column that drawn runs are laid out in. -/
def layOut :
    (type : SemanticType) →
    (rows : Nat) →
    DrawnRuns type.Cell →
    Except BuildError Column
  | .fixed type, rows, drawn => .ok (layOutValues type rows drawn)
  | .string, rows, drawn => (layOutStrings rows drawn).map StringColumn.toColumn
  | .dictionary32, _, _ => .error (.notImplemented ⟨.dictionary32⟩)
  | .list, _, _ => .error (.notImplemented ⟨.list⟩)
  | .struct, _, _ => .error (.notImplemented ⟨.struct⟩)

end SemanticType

/-- The runs that are drawn for a column of a kind. -/
def DrawPlan.drawn
    (plan : DrawPlan)
    (type : SemanticType)
    (rows : Nat)
    (engine : Engine) :
    DrawnRuns type.Cell :=
  ((plan.drawRuns rows (type.drawCell plan.nulls)).run engine).1

theorem DrawPlan.drawn_fills
    (plan : DrawPlan)
    (type : SemanticType)
    (rows : Nat)
    (engine : Engine) :
    (plan.drawn type rows engine).Fills rows :=
  plan.drawRuns_fills (type.drawCell plan.nulls) engine rows

/-! ## Runs of the builders -/

section Builders

variable
    (rows : Nat)
    (params : ColumnParams)
    (engine : Engine)

/-- A fixed-width column is checked, drawn and laid out. -/
theorem buildColumn_values_run (type : FixedType) :
    (buildColumn (.fixed type) rows params).run.run engine =
      match DrawPlan.of params rows with
      | .error error => (.error error, engine)
      | .ok plan =>
          if valuesFit type rows then
            (fun drawn => (.ok (layOutValues type rows drawn.1), drawn.2))
              ((plan.drawRuns rows (drawValueCell type.draw plan.nulls)).run
                engine)
          else
            (.error .bufferTooLarge, engine) := by
  rw [buildColumn_fixed, type.generator_eq, buildValues]
  cases DrawPlan.of params rows with
  | error error => rfl
  | ok plan =>
      by_cases fit : valuesFit type rows = true
      · simp only [fit]
        rfl
      · simp only [fit]
        rfl

/-- A string column is checked, drawn and laid out, if its bytes can be counted. -/
theorem buildStrings_run :
    (buildStrings rows params).run.run engine =
      match DrawPlan.of params rows with
      | .error error => (.error error, engine)
      | .ok plan =>
          if stringsFit rows then
            (fun drawn => (layOutStrings rows drawn.1, drawn.2))
              ((plan.drawRuns rows (drawTextCell textLengths plan.nulls)).run
                engine)
          else
            (.error .bufferTooLarge, engine) := by
  rw [buildStrings, ofMean_textLengths]
  cases DrawPlan.of params rows with
  | error error => rfl
  | ok plan =>
      by_cases fit : stringsFit rows = true
      · simp only [fit]
        rfl
      · simp only [fit]
        rfl

theorem buildColumn_string_run :
    (buildColumn .string rows params).run.run engine =
      (fun built => (built.1.map StringColumn.toColumn, built.2))
        ((buildStrings rows params).run.run engine) := by
  have handedOver :
      (buildColumn .string rows params).run.run engine =
        match (buildStrings rows params).run.run engine with
        | (.ok strings, rest) => (.ok strings.toColumn, rest)
        | (.error error, rest) => (.error error, rest) := by
    simp only [buildColumn, ExceptT.run_bind, StateT.run_bind]
    rcases (buildStrings rows params).run.run engine with ⟨_ | _, _⟩ <;> rfl
  rw [handedOver]
  rcases (buildStrings rows params).run.run engine with ⟨_ | _, _⟩ <;> rfl

/--
A column of a kind that can be drawn is checked, drawn and laid out, and the
engine is left where drawing its runs has left it.
-/
theorem buildColumn_run
    {type : SemanticType}
    (implemented : type.isImplemented = true) :
    (buildColumn type rows params).run.run engine =
      match DrawPlan.of params rows with
      | .error error => (.error error, engine)
      | .ok plan =>
          if type.fits rows then
            (fun drawn => (type.layOut rows drawn.1, drawn.2))
              ((plan.drawRuns rows (type.drawCell plan.nulls)).run engine)
          else
            (.error .bufferTooLarge, engine) := by
  cases type with
  | fixed type => exact buildColumn_values_run rows params engine type
  | string =>
      rw [buildColumn_string_run, buildStrings_run]
      cases DrawPlan.of params rows with
      | error error => rfl
      | ok plan =>
          by_cases fit : stringsFit rows = true
          · simp only [SemanticType.fits, fit, if_true]
            rfl
          · simp only [SemanticType.fits, fit]
            rfl
  | dictionary32 => cases implemented
  | list => cases implemented
  | struct => cases implemented

theorem buildColumn_fixed_run
    {plan : DrawPlan}
    (planned : DrawPlan.of params rows = .ok plan)
    (type : FixedType) :
    (buildColumn (.fixed type) rows params).run.run engine =
      if valuesFit type rows then
        (.ok
            (layOutValues type rows
              ((plan.drawRuns rows (drawValueCell type.draw plan.nulls)).run
                engine).1),
          ((plan.drawRuns rows (drawValueCell type.draw plan.nulls)).run
            engine).2)
      else
        (.error .bufferTooLarge, engine) := by
  rw [buildColumn_run rows params engine rfl, planned]
  rfl

variable
    {type : SemanticType}
    {column : Column}

/-- When a column is built, and which one it is: what its runs are laid out in. -/
theorem buildColumn_eq_ok_iff :
    ((buildColumn type rows params).run.run engine).1 = .ok column ↔
      ∃ plan,
        DrawPlan.of params rows = .ok plan ∧
          type.fits rows = true ∧
            type.layOut rows (plan.drawn type rows engine) = .ok column := by
  by_cases implemented : type.isImplemented = true
  · rw [buildColumn_run rows params engine implemented]
    cases DrawPlan.of params rows with
    | error error => simp
    | ok plan =>
        by_cases fit : type.fits rows = true
        · simp [fit, DrawPlan.drawn]
        · simp [fit]
  · -- Nothing is drawn for the other kinds, and nothing is laid out.
    constructor
    · intro built
      cases type with
      | fixed type => exact (implemented rfl).elim
      | string => exact (implemented rfl).elim
      | dictionary32 => cases built
      | list => cases built
      | struct => cases built
    · rintro ⟨plan, -, -, laidOut⟩
      cases type with
      | fixed type => exact (implemented rfl).elim
      | string => exact (implemented rfl).elim
      | dictionary32 => cases laidOut
      | list => cases laidOut
      | struct => cases laidOut

theorem buildColumn_eq_error_iff
    {error : BuildError}
    (implemented : type.isImplemented = true) :
    ((buildColumn type rows params).run.run engine).1 = .error error ↔
      DrawPlan.of params rows = .error error ∨
        ∃ plan,
          DrawPlan.of params rows = .ok plan ∧
            (type.fits rows = false ∧ error = .bufferTooLarge ∨
              type.fits rows = true ∧
                type.layOut rows (plan.drawn type rows engine) = .error error) := by
  rw [buildColumn_run rows params engine implemented]
  cases DrawPlan.of params rows with
  | error cause => simp
  | ok plan =>
      by_cases fit : type.fits rows = true
      · simp [fit, DrawPlan.drawn]
      · simp [fit, eq_comm]

/--
A column of a possible shape is not built only where its buffers cannot be
addressed or the bytes of its texts cannot be counted.
-/
theorem buildColumn_eq_error
    {plan : DrawPlan}
    {error : BuildError}
    (implemented : type.isImplemented = true)
    (planned : DrawPlan.of params rows = .ok plan)
    (failed :
      ((buildColumn type rows params).run.run engine).1 = .error error) :
    type.fits rows = false ∧ error = .bufferTooLarge ∨
      type = .string ∧
        ∃ bytes, twoTo 31 ≤ bytes ∧ error = .textOverflow bytes := by
  rcases (buildColumn_eq_error_iff rows params engine implemented).1 failed with
    unplanned | ⟨other, -, unaddressable | ⟨-, notLaidOut⟩⟩
  · cases planned.symm.trans unplanned
  · exact .inl unaddressable
  · cases type with
    | fixed type => cases notLaidOut
    | string =>
        have fills := other.drawn_fills .string rows engine
        rw [SemanticType.layOut, map_eq_error_iff] at notLaidOut
        exact .inr ⟨rfl, layOutStrings_eq_error fills notLaidOut⟩
    | dictionary32 => cases implemented
    | list => cases implemented
    | struct => cases implemented

theorem buildColumn_fixed_eq_ok_iff (type : FixedType) :
    ((buildColumn (.fixed type) rows params).run.run engine).1 = .ok column ↔
      ∃ plan,
        DrawPlan.of params rows = .ok plan ∧
          valuesFit type rows = true ∧
            column = layOutValues type rows (plan.drawn (.fixed type) rows engine) := by
  rw [buildColumn_eq_ok_iff]
  simp only [SemanticType.fits, SemanticType.layOut, Except.ok.injEq,
    eq_comm (a := column)]

theorem buildColumn_string_eq_ok_iff :
    ((buildColumn .string rows params).run.run engine).1 = .ok column ↔
      ∃ plan,
        DrawPlan.of params rows = .ok plan ∧
          stringsFit rows = true ∧
            TextFits (plan.drawn .string rows engine).pool.toList ∧
              TextFits (plan.drawn .string rows engine).cells.toList ∧
                column =
                  (StringColumn.ofCells rows
                    (plan.drawn .string rows engine).cells.toList).toColumn := by
  have laidOut :
      ∀ plan : DrawPlan,
        SemanticType.string.layOut rows (plan.drawn .string rows engine) =
            .ok column ↔
          TextFits (plan.drawn .string rows engine).pool.toList ∧
            TextFits (plan.drawn .string rows engine).cells.toList ∧
              column =
                (StringColumn.ofCells rows
                  (plan.drawn .string rows engine).cells.toList).toColumn := by
    intro plan
    have fills := plan.drawn_fills .string rows engine
    rw [SemanticType.layOut, map_eq_ok_iff]
    constructor
    · rintro ⟨strings, drawn, rfl⟩
      rcases (layOutStrings_eq_ok_iff fills).1 drawn with
        ⟨poolFits, cellsFit, rfl⟩
      exact ⟨poolFits, cellsFit, rfl⟩
    · rintro ⟨poolFits, cellsFit, rfl⟩
      exact ⟨_, (layOutStrings_eq_ok_iff fills).2 ⟨poolFits, cellsFit, rfl⟩, rfl⟩
  rw [buildColumn_eq_ok_iff]
  simp only [SemanticType.fits, laidOut]

end Builders

/-! ## What was built -/

/-- A fixed-width column of a possible shape is built if it can be addressed. -/
theorem exists_buildColumn_fixed
    {type : FixedType}
    {rows : Nat}
    {params : ColumnParams}
    {plan : DrawPlan}
    (planned : DrawPlan.of params rows = .ok plan)
    (fit : valuesFit type rows = true)
    (engine : Engine) :
    ∃ column,
      ((buildColumn (.fixed type) rows params).run.run engine).1 = .ok column :=
  ⟨_, (buildColumn_fixed_eq_ok_iff rows params engine type).2
    ⟨plan, planned, fit, rfl⟩⟩

section Built

variable
    {type : SemanticType}
    {rows : Nat}
    {params : ColumnParams}
    {engine : Engine}
    {column : Column}

/-- A column that was built holds the rows of its cells, and a store takes it. -/
theorem buildColumn_holds
    (built : ((buildColumn type rows params).run.run engine).1 = .ok column) :
    ∃ plan,
      DrawPlan.of params rows = .ok plan ∧
        column.Holds
            ((plan.drawn type rows engine).cells.toList.map type.cellRow) ∧
          column.validate = .ok () ∧
            column.semanticType = type := by
  cases type with
  | fixed type =>
      rcases (buildColumn_fixed_eq_ok_iff rows params engine type).1 built with
        ⟨plan, planEqual, -, rfl⟩
      have fills := plan.drawn_fills (.fixed type) rows engine
      exact ⟨plan, planEqual, layOutValues_holds fills,
        layOutValues_validate fills, rfl⟩
  | string =>
      rcases (buildColumn_string_eq_ok_iff rows params engine).1 built with
        ⟨plan, planEqual, -, -, fits, rfl⟩
      have complete :
          (plan.drawn .string rows engine).cells.toList.length = rows :=
        (plan.drawn_fills .string rows engine).size_cells
      exact ⟨plan, planEqual, StringColumn.ofCells_holds fits complete,
        StringColumn.ofCells_validate fits complete, rfl⟩
  | dictionary32 => cases built
  | list => cases built
  | struct => cases built

theorem buildColumn_rowCount
    (built : ((buildColumn type rows params).run.run engine).1 = .ok column) :
    column.rowCount = rows := by
  rcases buildColumn_holds built with ⟨plan, -, holds, -⟩
  rw [holds.rowCount, List.length_map]
  exact (plan.drawn_fills type rows engine).size_cells

end Built

end SyntheticTable
