import SyntheticTable.Proofs.ChangedCells
import SyntheticTable.Proofs.NullChance

/-!
# Validity that is flipped

Some cells are drawn as a content and a lot, however great the chance of nulls
is, and the chance only judges the lot: the cell is null if the lot lies below
a threshold.  Whichever chance it is, the same contents and lots are drawn, in
the pool and in the runs alike.  So the columns of two chances hold the same
data, the engine is left at the same place, and a row that is null by the
smaller chance is null by the greater.
-/

namespace SyntheticTable

/-- The cell of a content and a lot, valid if the lot is not below a threshold. -/
def judged
    {Content Cell : Type}
    (cell : Content → (valid : Bool) → Cell)
    (threshold : Nat)
    (drawn : Content × Nat) :
    Cell :=
  cell drawn.1 (decide (threshold ≤ drawn.2))

/--
The cells of a kind are drawn as a content and a lot.  The lot decides whether
the cell is valid, and that does not show in the data that are laid out.
-/
structure SemanticType.DrawnApart
    (type : SemanticType)
    {Content : Type}
    (draw : Draw (Content × Nat))
    (cell : Content → (valid : Bool) → type.Cell) :
    Prop where
  implemented : type.isImplemented = true
  drawCell :
    ∀ threshold,
      type.drawCell (.below threshold) = judged cell threshold <$> draw
  valid : ∀ content valid, (type.cellRow (cell content valid)).valid = valid
  data :
    ∀ {rows : Nat} {drawn : DrawnRuns (Content × Nat)} (low high : Nat),
      drawn.Fills rows →
        (type.layOut rows (drawn.map (judged cell low))).map Column.data =
          (type.layOut rows (drawn.map (judged cell high))).map Column.data

/-! ## Texts -/

/-- Draws the text of a cell, and the lot that decides whether it is null. -/
def drawText : Draw (Array UInt8 × Nat) := do
  let length ← textLengths.draw
  let chars ← Draw.repeated length.toUInt64.toNat drawCharacter
  let lot ← Draw.steps24
  return (chars, lot)

/-- A text is drawn whether or not its cell is null. -/
theorem drawTextCell_below (threshold : Nat) :
    drawTextCell textLengths (.below threshold) =
      judged TextCell.mk threshold <$> drawText := by
  simp only [drawTextCell, drawText, NullRule.drawValid, map_bind, map_pure,
    bind_assoc, pure_bind]
  rfl

theorem chars_judged
    (threshold : Nat)
    (drawn : Array (Array UInt8 × Nat)) :
    (drawn.map (judged TextCell.mk threshold)).toList.map TextCell.chars =
      drawn.toList.map Prod.fst := by
  rw [Array.toList_map, List.map_map]
  rfl

/-- Cells of the same texts lay out the same bytes and offsets. -/
theorem StringColumn.appendCells_data
    (column other : StringColumn)
    {cells others : List TextCell}
    (sameData : column.toColumn.data = other.toColumn.data)
    (sameTexts : cells.map TextCell.chars = others.map TextCell.chars) :
    (column.appendCells cells).map (·.toColumn.data) =
      (other.appendCells others).map (·.toColumn.data) := by
  induction cells generalizing column other others with
  | nil =>
      cases others with
      | nil => rw [appendCells_nil, appendCells_nil, map_ok, map_ok, sameData]
      | cons _ _ => cases sameTexts
  | cons cell cells inductionHypothesis =>
      cases others with
      | nil => cases sameTexts
      | cons otherCell others =>
          rcases List.cons.inj sameTexts with ⟨sameText, sameOthers⟩
          rcases ColumnData.string.inj sameData with ⟨sameChars, sameOffsets⟩
          rw [appendCells_cons, appendCells_cons, append_eq, append_eq, sameChars,
            sameOffsets, sameText]
          split
          · rw [bind_ok, bind_ok]
            exact inductionHypothesis _ _ rfl sameOthers
          · rfl

/-- Results that agree after checks that agree also agree after being checked. -/
theorem map_bind_of_map_eq
    {ε α β γ δ : Type}
    {check otherCheck : Except ε α}
    {result other : Except ε β}
    {seen : α → γ}
    {kept : β → δ}
    (sameCheck : check.map seen = otherCheck.map seen)
    (sameResult : result.map kept = other.map kept) :
    (check >>= fun _ => result).map kept = (otherCheck >>= fun _ => other).map kept := by
  cases check with
  | error error =>
      cases otherCheck with
      | error otherError =>
          cases sameCheck
          rfl
      | ok value => cases sameCheck
  | ok value =>
      cases otherCheck with
      | error error => cases sameCheck
      | ok otherValue => exact sameResult

/-- Strings of the same texts are laid out in the same data, or refused alike. -/
theorem layOutStrings_data
    {rows : Nat}
    {drawn others : DrawnRuns TextCell}
    (fills : drawn.Fills rows)
    (othersFill : others.Fills rows)
    (samePool :
      drawn.pool.toList.map TextCell.chars = others.pool.toList.map TextCell.chars)
    (sameCells :
      drawn.cells.toList.map TextCell.chars =
        others.cells.toList.map TextCell.chars) :
    (layOutStrings rows drawn).map (·.toColumn.data) =
      (layOutStrings rows others).map (·.toColumn.data) := by
  have pool :=
    StringColumn.appendCells_data (.start drawn.pool.size)
      (.start others.pool.size) rfl samePool
  have cells :=
    StringColumn.appendCells_data (.start rows) (.start rows) rfl sameCells
  rw [layOutStrings_eq fills, layOutStrings_eq othersFill]
  exact map_bind_of_map_eq pool cells

theorem string_drawnApart :
    SemanticType.string.DrawnApart drawText TextCell.mk where
  implemented := rfl
  drawCell := drawTextCell_below
  valid := fun _ _ => rfl
  data := by
    intro rows drawn low high fills
    have handedOver :
        ∀ drawn : DrawnRuns TextCell,
          (SemanticType.string.layOut rows drawn).map Column.data =
            (layOutStrings rows drawn).map (·.toColumn.data) := by
      intro drawn
      show ((layOutStrings rows drawn).map StringColumn.toColumn).map _ = _
      cases layOutStrings rows drawn <;> rfl
    rw [handedOver, handedOver]
    refine layOutStrings_data (fills.map _) (fills.map _) ?_ ?_
    · exact (chars_judged low drawn.pool).trans (chars_judged high drawn.pool).symm
    · rw [DrawnRuns.cells_map, DrawnRuns.cells_map, chars_judged, chars_judged]

/-! ## Values that are not drawn -/

/-- Of a kind with one value, a cell is that value or none. -/
def soleCell (type : FixedType) (_ : Unit) (valid : Bool) : Option type.Value :=
  if valid then some type.defaultValue else none

/-- Where the value of a kind is not drawn, only its validity is. -/
theorem drawnApart_of_draw_eq
    {type : FixedType}
    (notDrawn : type.draw = pure type.defaultValue) :
    (SemanticType.fixed type).DrawnApart
      ((fun lot => ((), lot)) <$> Draw.steps24) (soleCell type) where
  implemented := rfl
  drawCell := by
    intro threshold
    show drawValueCell type.draw (.below threshold) = _
    simp only [drawValueCell, NullRule.drawValid, notDrawn, bind_assoc, pure_bind,
      ← bind_pure_comp]
    refine congrArg _ (funext fun lot => ?_)
    by_cases valid : threshold ≤ lot <;> simp [judged, soleCell, valid]
  valid := by
    intro content valid
    cases valid <;> rfl
  data := by
    intro rows drawn low high fills
    have defaults :
        ∀ threshold,
          (drawn.map (judged (soleCell type) threshold)).cells.map
              (·.getD type.defaultValue) =
            drawn.cells.map fun _ => type.defaultValue := by
      intro threshold
      rw [DrawnRuns.cells_map, Array.map_map]
      refine congrArg (Array.map · drawn.cells) (funext fun lot => ?_)
      by_cases valid : threshold ≤ lot.2 <;> simp [judged, soleCell, valid]
    show Except.ok (ColumnData.fixed type _) = Except.ok (ColumnData.fixed type _)
    rw [defaults, defaults]

/-! ## Columns of two chances -/

theorem DrawPlan.of_below
    {frequency : Single}
    {threshold : Nat}
    (ruled : NullRule.ofFrequency? frequency = some (.below threshold))
    (cardinality : UInt64)
    (averageRunLength : UInt32)
    (rows : Nat) :
    DrawPlan.of ⟨frequency, cardinality, averageRunLength⟩ rows =
      .ok
        ⟨.below threshold, .withAverage averageRunLength,
          min cardinality.toNat rows⟩ := by
  rw [DrawPlan.of_eq, ruled]

namespace SemanticType.DrawnApart

variable
    {type : SemanticType}
    {Content : Type}
    {draw : Draw (Content × Nat)}
    {cell : Content → (valid : Bool) → type.Cell}
    (apart : type.DrawnApart draw cell)
    {rows : Nat}
    {cardinality : UInt64}
    {averageRunLength : UInt32}
    {engine : Engine}
    {frequency : Single}
    {threshold : Nat}
    (ruled : NullRule.ofFrequency? frequency = some (.below threshold))

/--
The contents and lots that are drawn for a column, and the engine that is left.
The null rule of the plan plays no part, as the lots are drawn with the contents.
-/
def lots
    (draw : Draw (Content × Nat))
    (rows : Nat)
    (cardinality : UInt64)
    (averageRunLength : UInt32)
    (engine : Engine) :
    DrawnRuns (Content × Nat) × Engine :=
  (DrawPlan.drawRuns
      ⟨.never, .withAverage averageRunLength, min cardinality.toNat rows⟩ rows
      draw).run
    engine

include apart ruled

/-- A column is laid out from contents and lots that do not depend on the chance. -/
theorem buildColumn_run :
    (buildColumn type rows ⟨frequency, cardinality, averageRunLength⟩).run.run engine =
      if type.fits rows then
        (type.layOut rows
            ((lots draw rows cardinality averageRunLength engine).1.map
              (judged cell threshold)),
          (lots draw rows cardinality averageRunLength engine).2)
      else
        (.error .bufferTooLarge, engine) := by
  rw [SyntheticTable.buildColumn_run rows _ engine apart.implemented,
    DrawPlan.of_below ruled]
  dsimp only
  rw [apart.drawCell, DrawPlan.drawRuns_map_run]
  rfl

theorem isValid?_eq_ok_iff
    {column : Column}
    (built :
      ((buildColumn type rows ⟨frequency, cardinality, averageRunLength⟩).run.run
        engine).1 = .ok column)
    (row : Nat)
    (valid : Bool) :
    column.isValid? row = .ok valid ↔
      ∃ drawn,
        (lots draw rows cardinality averageRunLength engine).1.cells[row]? = some drawn ∧
          decide (threshold ≤ drawn.2) = valid := by
  rcases buildColumn_holds built with ⟨plan, same, holds, -⟩
  cases same.symm.trans (DrawPlan.of_below ruled cardinality averageRunLength rows)
  rw [DrawPlan.drawn, apart.drawCell, DrawPlan.drawRuns_map_run, DrawnRuns.cells_map,
    Array.toList_map, List.map_map] at holds
  have read :
      ∀ drawn,
        (lots draw rows cardinality averageRunLength engine).1.cells[row]? = some drawn →
          column.isValid? row = .ok (decide (threshold ≤ drawn.2)) := by
    intro drawn found
    have held := congrArg (Option.map (type.cellRow ∘ judged cell threshold)) found
    rw [← Array.getElem?_toList, ← List.getElem?_map] at held
    exact (holds.isValid? held).trans (congrArg Except.ok (apart.valid _ _))
  constructor
  · intro isRow
    have inside := (Column.isValid?_eq_ok_iff.1 isRow).1
    rw [holds.rowCount, List.length_map, Array.length_toList] at inside
    have found := Array.getElem?_eq_getElem inside
    exact ⟨_, found, Except.ok.inj ((read _ found).symm.trans isRow)⟩
  · rintro ⟨drawn, found, rfl⟩
    exact read drawn found

omit apart ruled

variable
    {few many : Single}
    {low high : Nat}
    (fewRuled : NullRule.ofFrequency? few = some (.below low))
    (manyRuled : NullRule.ofFrequency? many = some (.below high))
include apart fewRuled manyRuled

theorem buildColumn_engine :
    ((buildColumn type rows ⟨few, cardinality, averageRunLength⟩).run.run engine).2 =
      ((buildColumn type rows ⟨many, cardinality, averageRunLength⟩).run.run
        engine).2 := by
  rw [apart.buildColumn_run fewRuled, apart.buildColumn_run manyRuled]
  split <;> rfl

theorem buildColumn_data :
    ((buildColumn type rows ⟨few, cardinality, averageRunLength⟩).run.run engine).1.map
        Column.data =
      ((buildColumn type rows ⟨many, cardinality, averageRunLength⟩).run.run
        engine).1.map Column.data := by
  rw [apart.buildColumn_run fewRuled, apart.buildColumn_run manyRuled]
  split
  · exact apart.data low high (DrawPlan.drawRuns_fills _ draw engine rows)
  · rfl

/-- By the greater threshold no null row becomes valid. -/
theorem null_of_null
    {fewer more : Column}
    {row : Nat}
    (ordered : low ≤ high)
    (fewBuilt :
      ((buildColumn type rows ⟨few, cardinality, averageRunLength⟩).run.run engine).1 =
        .ok fewer)
    (manyBuilt :
      ((buildColumn type rows ⟨many, cardinality, averageRunLength⟩).run.run engine).1 =
        .ok more)
    (isNull : fewer.isValid? row = .ok false) :
    more.isValid? row = .ok false := by
  rcases (apart.isValid?_eq_ok_iff fewRuled fewBuilt row false).1 isNull with
    ⟨drawn, found, below⟩
  refine (apart.isValid?_eq_ok_iff manyRuled manyBuilt row false).2 ⟨drawn, found, ?_⟩
  rw [decide_eq_false_iff_not, not_le] at below ⊢
  exact Nat.lt_of_lt_of_le below ordered

end SemanticType.DrawnApart

/--
Texts and decimals are drawn apart from their validity.  So two chances of
nulls above zero leave the engine at the same place and build columns of the
same data, or are refused alike; and a row that is null by the smaller chance
is null by the greater.
-/
theorem chance_flips_validity
    {type : SemanticType}
    (kind : type ∈ [.string, .fixed .decimal32, .fixed .decimal64])
    (rows : Nat)
    (cardinality : UInt64)
    (averageRunLength : UInt32)
    (engine : Engine)
    {few many : Single}
    {small great : ℚ}
    (fewValue : few.value? = some small)
    (fewChance : 0 < small ∧ small ≤ 1)
    (manyValue : many.value? = some great)
    (manyChance : 0 < great ∧ great ≤ 1) :
    let build := fun frequency =>
      (buildColumn type rows ⟨frequency, cardinality, averageRunLength⟩).run.run engine
    (build few).2 = (build many).2 ∧
      (build few).1.map Column.data = (build many).1.map Column.data ∧
        (small ≤ great →
          ∀ fewer more,
            (build few).1 = .ok fewer →
            (build many).1 = .ok more →
              ∀ row,
                fewer.isValid? row = .ok false → more.isValid? row = .ok false) := by
  intro build
  obtain ⟨Content, draw, cell, apart⟩ :
      ∃ (Content : Type) (draw : Draw (Content × Nat))
        (cell : Content → Bool → type.Cell),
        type.DrawnApart draw cell := by
    simp only [List.mem_cons, List.not_mem_nil, or_false] at kind
    rcases kind with rfl | rfl | rfl
    · exact ⟨_, _, _, string_drawnApart⟩
    · exact ⟨_, _, _, drawnApart_of_draw_eq rfl⟩
    · exact ⟨_, _, _, drawnApart_of_draw_eq rfl⟩
  rcases NullRule.exists_threshold fewValue fewChance.1 fewChance.2 with
    ⟨low, fewRuled, fewValid⟩
  rcases NullRule.exists_threshold manyValue manyChance.1 manyChance.2 with
    ⟨high, manyRuled, manyValid⟩
  refine
    ⟨apart.buildColumn_engine fewRuled manyRuled,
      apart.buildColumn_data fewRuled manyRuled, ?_⟩
  intro ordered fewer more fewBuilt manyBuilt row
  have thresholds : low ≤ high := by
    rw [fewValid]
    calc
      small * 2 ^ 24 ≤ great * 2 ^ 24 := by gcongr
      _ ≤ (high : ℚ) := (manyValid high).1 (Nat.le_refl high)
  exact apart.null_of_null fewRuled manyRuled thresholds fewBuilt manyBuilt

/--
Six decimals and six texts are picked from pools of two, half of them and then
three quarters of them null by chance.
-/
theorem chance_flips_validity_six :
    let build := fun type frequency =>
      (buildColumn type 6 ⟨frequency, 2, 4⟩).run.run (Engine.seeded 7)
    (∃ fewer more,
      (build (.fixed .decimal32) ⟨0x3F00_0000⟩).1 = .ok fewer ∧
        (build (.fixed .decimal32) ⟨0x3F40_0000⟩).1 = .ok more ∧
          fewer.data = more.data ∧
            ∀ row,
              fewer.isValid? row = .ok false → more.isValid? row = .ok false) ∧
      (build .string ⟨0x3F00_0000⟩).2 = (build .string ⟨0x3F40_0000⟩).2 ∧
        (build .string ⟨0x3F00_0000⟩).1.map Column.data =
            (build .string ⟨0x3F40_0000⟩).1.map Column.data ∧
          ∀ fewer more,
            (build .string ⟨0x3F00_0000⟩).1 = .ok fewer →
            (build .string ⟨0x3F40_0000⟩).1 = .ok more →
              ∀ row,
                fewer.isValid? row = .ok false → more.isValid? row = .ok false := by
  intro build
  have half : Single.value? ⟨0x3F00_0000⟩ = some (1 / 2) := by
    show some (((8388608 : Nat) : ℚ) * 2 ^ (-24 : Int)) = _
    norm_num
  have quarters : Single.value? ⟨0x3F40_0000⟩ = some (3 / 4) := by
    show some (((12582912 : Nat) : ℚ) * 2 ^ (-24 : Int)) = _
    norm_num
  have halfPlanned :
      DrawPlan.of ⟨⟨0x3F00_0000⟩, 2, 4⟩ 6 =
        .ok ⟨.below 8388608, .withAverage 4, 2⟩ := by
    rfl
  have quartersPlanned :
      DrawPlan.of ⟨⟨0x3F40_0000⟩, 2, 4⟩ 6 =
        .ok ⟨.below 12582912, .withAverage 4, 2⟩ := by
    rfl
  have fit : valuesFit .decimal32 6 = true := by decide
  rcases exists_buildColumn_fixed halfPlanned fit (Engine.seeded 7) with
    ⟨fewer, fewBuilt⟩
  rcases exists_buildColumn_fixed quartersPlanned fit (Engine.seeded 7) with
    ⟨more, manyBuilt⟩
  rcases
      chance_flips_validity
        (show SemanticType.fixed .decimal32 ∈
          [.string, .fixed .decimal32, .fixed .decimal64] by decide)
        6 2 4 (Engine.seeded 7) half (by norm_num) quarters (by norm_num) with
    ⟨-, data, flipped⟩
  rcases
      chance_flips_validity
        (show SemanticType.string ∈
          [.string, .fixed .decimal32, .fixed .decimal64] by decide)
        6 2 4 (Engine.seeded 7) half (by norm_num) quarters (by norm_num) with
    ⟨sameEngine, sameTexts, textsFlipped⟩
  rw [fewBuilt, manyBuilt] at data
  exact
    ⟨⟨fewer, more, fewBuilt, manyBuilt, Except.ok.inj data,
        flipped (by norm_num) fewer more fewBuilt manyBuilt⟩,
      sameEngine, sameTexts, textsFlipped (by norm_num)⟩

end SyntheticTable
