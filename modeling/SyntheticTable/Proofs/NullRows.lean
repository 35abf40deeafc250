import SyntheticTable.Proofs.BuiltColumn
import SyntheticTable.Proofs.NullChance
import SyntheticTable.Proofs.SummaryCounts

/-!
# Null rows

Whether a cell is null is decided when it is drawn and goes with it to every
row of its runs.  At the ends of the scale nothing is left to chance: no lot
falls below a chance of zero, and every lot falls below a chance of one.

A null cell of a fixed-width column has no value, so the default value stands
in its rows, and they are all alike.
-/

namespace SyntheticTable

/-! ## Chances that decide by themselves -/

theorem Draw.steps24_lt (engine : Engine) :
    (Draw.steps24.run engine).1 < twoTo 24 := by
  have lot :
      (Draw.steps24.run engine).1 = (Draw.word.run engine).1.toNat >>> 8 :=
    rfl
  have word : (Draw.word.run engine).1.toNat < 2 ^ 32 := UInt32.toNat_lt _
  have whole : twoTo 24 = 2 ^ 24 := rfl
  rw [lot, Nat.shiftRight_eq_div_pow, whole]
  omega

namespace NullRule

/-- Cells are valid, or null, whatever is drawn. -/
def Decides (nulls : NullRule) (valid : Bool) : Prop :=
  ∀ engine, (nulls.drawValid.run engine).1 = valid

/-- By a chance of zero, of either sign, every cell is valid. -/
theorem decides_of_isZero
    {frequency : Single}
    {nulls : NullRule}
    (zero : frequency.isZero = true)
    (ruled : ofFrequency? frequency = some nulls) :
    nulls.Decides true := by
  cases ruled.symm.trans (ofFrequency?_of_isZero zero)
  intro engine
  rfl

/-- By a chance of one every cell is null. -/
theorem decides_of_one
    {frequency : Single}
    {nulls : NullRule}
    (one : frequency.value? = some 1)
    (ruled : ofFrequency? frequency = some nulls) :
    nulls.Decides false := by
  rcases exists_threshold one one_pos (le_refl 1) with ⟨threshold, same, reached⟩
  cases ruled.symm.trans same
  intro engine
  have missed : ¬ threshold ≤ (Draw.steps24.run engine).1 := by
    rw [reached, not_le, one_mul]
    exact_mod_cast Draw.steps24_lt engine
  exact decide_eq_false missed

end NullRule

/-- A cell of any kind is valid as its rule decides. -/
theorem SemanticType.valid_cellRow_of_decides
    {type : SemanticType}
    {nulls : NullRule}
    {valid : Bool}
    (implemented : type.isImplemented = true)
    (decided : nulls.Decides valid)
    (engine : Engine) :
    (type.cellRow ((type.drawCell nulls).run engine).1).valid = valid := by
  cases type with
  | fixed type =>
      have drawn :
          ((drawValueCell type.draw nulls).run engine).1 =
            if valid then
              some (type.draw.run (nulls.drawValid.run engine).2).1
            else
              none := by
        rw [← decided engine]
        simp only [drawValueCell, StateT.run_bind]
        cases nulls.drawValid.run engine with
        | mk valid rest => cases valid <;> rfl
      show ((drawValueCell type.draw nulls).run engine).1.isSome = valid
      rw [drawn]
      cases valid <;> rfl
  | string => exact decided _
  | dictionary32 => cases implemented
  | list => cases implemented
  | struct => cases implemented

/-! ## Rows of null cells -/

theorem Column.Holds.exists_of_isValid?
    {column : Column}
    {rows : List ColumnRow}
    {row : Nat}
    {valid : Bool}
    (holds : column.Holds rows)
    (told : column.isValid? row = .ok valid) :
    ∃ content, rows[row]? = some content ∧ content.valid = valid := by
  rcases Column.isValid?_eq_ok_iff.1 told with ⟨inside, -⟩
  rcases holds.exists_row inside with ⟨content, found, read, -⟩
  exact ⟨content, found, Except.ok.inj (read.symm.trans told)⟩

section FixedWidth

variable
    {type : FixedType}
    {rows row other : Nat}
    {drawn : DrawnRuns (Option type.Value)}
    (fills : drawn.Fills rows)
include fills

theorem cells_of_null
    (isNull : (layOutValues type rows drawn).isValid? row = .ok false) :
    drawn.cells[row]? = some none := by
  rcases (layOutValues_holds fills).exists_of_isValid? isNull with
    ⟨content, found, invalid⟩
  rw [List.getElem?_map, Option.map_eq_some_iff] at found
  rcases found with ⟨cell, cellFound, rfl⟩
  rw [← Array.getElem?_toList, cellFound]
  cases cell with
  | none => rfl
  | some value => cases invalid

theorem values_of_null
    (isNull : (layOutValues type rows drawn).isValid? row = .ok false) :
    (drawn.cells.map (·.getD type.defaultValue))[row]? =
      some type.defaultValue := by
  rw [Array.getElem?_map, cells_of_null fills isNull]
  rfl

theorem rowsEqual?_of_null
    (isNull : (layOutValues type rows drawn).isValid? row = .ok false)
    (alsoNull : (layOutValues type rows drawn).isValid? other = .ok false) :
    (layOutValues type rows drawn).rowsEqual? row other = .ok true := by
  have nullRow :
      ∀ {place : Nat},
        (layOutValues type rows drawn).isValid? place = .ok false →
          (drawn.cells.toList.map type.cellRow)[place]? =
            some (type.cellRow none) := by
    intro place placeNull
    rw [List.getElem?_map, Array.getElem?_toList, cells_of_null fills placeNull]
    rfl
  rw [(layOutValues_holds fills).rowsEqual? (nullRow isNull) (nullRow alsoNull),
    decide_eq_true rfl]

end FixedWidth

section Built

variable
    {type : SemanticType}
    {rows : Nat}
    {params : ColumnParams}
    {engine : Engine}
    {column : Column}
    (built : ((buildColumn type rows params).run.run engine).1 = .ok column)
include built

theorem isImplemented_of_built : type.isImplemented = true := by
  cases type with
  | fixed type => rfl
  | string => rfl
  | dictionary32 => cases built
  | list => cases built
  | struct => cases built

/-- Where the chance decides by itself, all rows are valid, or all are null. -/
theorem exists_holds_of_decides
    {valid : Bool}
    (decided :
      ∀ nulls,
        NullRule.ofFrequency? params.nullFrequency = some nulls →
          nulls.Decides valid) :
    ∃ held,
      column.Holds held ∧ ∀ content ∈ held, content.valid = valid := by
  rcases buildColumn_holds built with ⟨plan, planned, holds, -⟩
  rcases DrawPlan.of_eq_ok_iff.1 planned with ⟨nulls, ruled, rfl⟩
  refine ⟨_, holds, ?_⟩
  intro content member
  rcases List.mem_map.1 member with ⟨cell, cellMember, rfl⟩
  refine
    DrawPlan.cells_property _ engine
      (fun cell => (type.cellRow cell).valid = valid) ?_ rows cell
      (Array.mem_toList_iff.1 cellMember)
  exact
    SemanticType.valid_cellRow_of_decides (isImplemented_of_built built)
      (decided nulls ruled)

theorem nullCount_of_isZero
    (zero : params.nullFrequency.isZero = true) :
    column.nullCount = 0 := by
  rcases
      exists_holds_of_decides built fun nulls ruled =>
        NullRule.decides_of_isZero zero ruled with
    ⟨held, holds, valid⟩
  rw [holds.nullCount, List.countP_eq_zero]
  intro content member
  rw [valid content member]
  exact Bool.false_ne_true

theorem nullCount_of_one
    (one : params.nullFrequency.value? = some 1) :
    column.nullCount = column.rowCount := by
  rcases
      exists_holds_of_decides built fun nulls ruled =>
        NullRule.decides_of_one one ruled with
    ⟨held, holds, invalid⟩
  rw [holds.nullCount, holds.rowCount, List.countP_eq_length]
  intro content member
  rw [invalid content member]
  rfl

theorem distinctCount_of_one
    (one : params.nullFrequency.value? = some 1) :
    ∃ summary,
      ColumnSummary.of column = .ok summary ∧ summary.distinctCount = 0 := by
  rcases buildColumn_holds built with ⟨plan, -, holds, -⟩
  rcases holds.summary with ⟨summary, observed, distinct, -⟩
  refine ⟨summary, observed, ?_⟩
  rw [distinct, holds.card_validRecords_eq_zero_iff]
  exact nullCount_of_one built one

/--
Whatever is drawn, by a chance of zero no row of a column is null, and by a
chance of one all rows are null and no record is counted.  By any chance the
default value stands in every null row of a fixed-width column, and these rows
are equal.
-/
theorem null_rows_of_built_columns :
    (params.nullFrequency.isZero = true → column.nullCount = 0) ∧
      (params.nullFrequency.value? = some 1 →
        column.nullCount = rows ∧
          ∃ summary,
            ColumnSummary.of column = .ok summary ∧ summary.distinctCount = 0) ∧
        ∀ fixed,
          type = .fixed fixed →
            ∃ values,
              column.data = .fixed fixed values ∧
                ∀ row,
                  column.isValid? row = .ok false →
                    values[row]? = some fixed.defaultValue ∧
                      ∀ other,
                        column.isValid? other = .ok false →
                          column.rowsEqual? row other = .ok true := by
  refine ⟨nullCount_of_isZero built, ?_, ?_⟩
  · intro one
    rw [nullCount_of_one built one, buildColumn_rowCount built]
    exact ⟨rfl, distinctCount_of_one built one⟩
  · rintro fixed rfl
    rcases (buildColumn_fixed_eq_ok_iff rows params engine fixed).1 built with
      ⟨plan, -, -, rfl⟩
    have fills := plan.drawn_fills (.fixed fixed) rows engine
    refine ⟨_, rfl, ?_⟩
    intro row isNull
    exact
      ⟨values_of_null fills isNull, fun other alsoNull =>
        rowsEqual?_of_null fills isNull alsoNull⟩

end Built

/--
Six numbers are drawn from a pool of two, none of them null by a chance of
minus zero and all of them by a chance of one.
-/
theorem null_rows_of_built_columns_six :
    (∃ column,
      ((buildColumn (.fixed .int16) 6 ⟨⟨0x8000_0000⟩, 2, 4⟩).run.run
          (Engine.seeded 7)).1 = .ok column ∧
        column.nullCount = 0) ∧
      ∃ column,
        ((buildColumn (.fixed .int16) 6 ⟨⟨0x3F80_0000⟩, 2, 4⟩).run.run
            (Engine.seeded 7)).1 = .ok column ∧
          column.nullCount = 6 ∧
            ∃ summary,
              ColumnSummary.of column = .ok summary ∧
                summary.distinctCount = 0 := by
  have zeroPlanned :
      DrawPlan.of ⟨⟨0x8000_0000⟩, 2, 4⟩ 6 = .ok ⟨.never, .withAverage 4, 2⟩ := by
    rfl
  have onePlanned :
      DrawPlan.of ⟨⟨0x3F80_0000⟩, 2, 4⟩ 6 = .ok ⟨.below 16777216, .withAverage 4, 2⟩ := by
    rfl
  have one : Single.value? ⟨0x3F80_0000⟩ = some 1 := by
    show some (((8388608 : Nat) : ℚ) * 2 ^ (-23 : Int)) = _
    norm_num
  have fit : valuesFit .int16 6 = true := by decide
  rcases exists_buildColumn_fixed zeroPlanned fit (Engine.seeded 7) with
    ⟨full, fullBuilt⟩
  rcases exists_buildColumn_fixed onePlanned fit (Engine.seeded 7) with
    ⟨empty, emptyBuilt⟩
  exact
    ⟨⟨full, fullBuilt, (null_rows_of_built_columns fullBuilt).1 (by decide)⟩,
      empty, emptyBuilt, (null_rows_of_built_columns emptyBuilt).2.1 one⟩

end SyntheticTable
