import SyntheticTable.Proofs.BuiltColumn
import SyntheticTable.Proofs.NullChance

/-!
# Built columns are well-formed

Whatever is drawn, a column that is built passes the checks of a store and has
the kind and the rows that were asked for.  The texts of a string column lie in
order behind one another and fit the offsets, and they are made of printable
characters, the texts of null rows among them.

A column of a possible shape that cannot be built has too much text.  Apart
from that only buffers that cannot be addressed are in the way, and they break
off the call.
-/

namespace SyntheticTable

/-! ## Printable texts -/

/-- A byte is the code of a printable character other than a blank. -/
def IsPrintable (char : UInt8) : Prop :=
  '!'.toNat ≤ char.toNat ∧ char.toNat ≤ '~'.toNat

theorem drawCharacter_isPrintable (engine : Engine) :
    IsPrintable (drawCharacter.run engine).1 := by
  have below := Draw.wordBelow_lt (show 0 < 94 by decide) engine
  have code :
      (drawCharacter.run engine).1 =
        .ofNat (33 + ((Draw.wordBelow 94).run engine).1) :=
    rfl
  have number :
      (drawCharacter.run engine).1.toNat =
        33 + ((Draw.wordBelow 94).run engine).1 := by
    rw [code, UInt8.toNat_ofNat']
    exact Nat.mod_eq_of_lt (by omega)
  have lowest : '!'.toNat = 33 := rfl
  have highest : '~'.toNat = 126 := rfl
  rw [IsPrintable, number, lowest, highest]
  omega

theorem drawTextCell_isPrintable
    (lengths : Poisson)
    (nulls : NullRule)
    (engine : Engine) :
    ∀ char ∈ ((drawTextCell lengths nulls).run engine).1.chars, IsPrintable char := by
  have text :
      ∃ length afterLength,
        ((drawTextCell lengths nulls).run engine).1.chars =
          ((Draw.repeated length drawCharacter).run afterLength).1 :=
    ⟨_, _, rfl⟩
  rcases text with ⟨length, afterLength, chars⟩
  rw [chars]
  exact Draw.repeated_property IsPrintable drawCharacter_isPrintable length afterLength

/--
Texts of a number of rows lie in order: there is one offset more than rows, the
first is zero, none is greater than the next and the last counts the bytes,
which are printable.
-/
structure TextsInOrder
    (rows : Nat)
    (chars : Array UInt8)
    (offsets : Array Int32) : Prop where
  size : offsets.size = rows + 1
  first : offsets[0]? = some 0
  ordered :
    ∀ {place : Nat} {before behind : Int32},
      offsets[place]? = some before →
        offsets[place + 1]? = some behind → before.toInt ≤ behind.toInt
  last : ∃ stop, offsets[rows]? = some stop ∧ stop.toInt = chars.size
  countable : chars.size < twoTo 31
  printable : ∀ char ∈ chars, IsPrintable char

theorem StringColumn.ofCells_inOrder
    {rows : Nat}
    {cells : List TextCell}
    (fits : TextFits cells)
    (complete : cells.length = rows)
    (printable : ∀ cell ∈ cells, ∀ char ∈ cell.chars, IsPrintable char) :
    TextsInOrder rows (ofCells rows cells).chars (ofCells rows cells).offsets where
  size := by
    rw [← complete]
    simp [ofCells]
  first := by
    rw [offsets_ofCells_getElem? (Nat.zero_le _), textBefore_zero]
    rfl
  ordered := offsets_ofCells_le fits
  last := by
    refine ⟨_, offsets_ofCells_getElem? (Nat.le_of_eq complete.symm), ?_⟩
    rw [← complete, textBefore_length, toInt_ofNat_of_lt fits]
    rfl
  countable := fits
  printable := by
    intro char member
    rcases List.mem_flatMap.1 (Array.mem_def.1 member) with
      ⟨cell, cellMember, charMember⟩
    exact printable cell cellMember char (Array.mem_toList_iff.1 charMember)

section Built

variable
    {type : SemanticType}
    {rows : Nat}
    {params : ColumnParams}
    {engine : Engine}
    {column : Column}

theorem exists_string_of_semanticType
    (strings : column.semanticType = .string) :
    ∃ chars offsets, column.data = .string chars offsets := by
  rcases column with ⟨data, mask⟩
  cases data with
  | fixed type values => cases strings
  | string chars offsets => exact ⟨chars, offsets, rfl⟩

theorem buildColumn_textsInOrder
    {chars : Array UInt8}
    {offsets : Array Int32}
    (built : ((buildColumn .string rows params).run.run engine).1 = .ok column)
    (data : column.data = .string chars offsets) :
    TextsInOrder rows chars offsets := by
  rcases (buildColumn_string_eq_ok_iff rows params engine).1 built with
    ⟨plan, -, -, -, fits, rfl⟩
  cases data
  refine StringColumn.ofCells_inOrder fits ?_ ?_
  · exact (plan.drawn_fills .string rows engine).size_cells
  · intro cell member
    exact
      plan.cells_property engine
        (fun cell : TextCell => ∀ char ∈ cell.chars, IsPrintable char)
        (drawTextCell_isPrintable textLengths plan.nulls) rows cell
        (Array.mem_toList_iff.1 member)

/--
A column of a kind that can be drawn, with a chance of nulls, has that kind,
the rows that were asked for, and passes the checks of a store, as soon as it
is built; the texts of a string column lie in order.  It is refused only over
texts that are too long for the offsets, and broken off only where its buffers
cannot be addressed.
-/
theorem built_columns_are_wellFormed
    (implemented : type.isImplemented = true)
    (chance : params.nullFrequency.IsChance) :
    (∀ column,
      ((buildColumn type rows params).run.run engine).1 = .ok column →
        column.semanticType = type ∧
          column.rowCount = rows ∧
          column.validate = .ok () ∧
          ∀ chars offsets,
            column.data = .string chars offsets →
              TextsInOrder rows chars offsets) ∧
    ∀ error,
      ((buildColumn type rows params).run.run engine).1 = .error error →
        type.fits rows = false ∧ error = .bufferTooLarge ∨
          type = .string ∧
            ∃ bytes, twoTo 31 ≤ bytes ∧ error = .textOverflow bytes := by
  constructor
  · intro column built
    rcases buildColumn_holds built with ⟨-, -, -, valid, sameType⟩
    refine ⟨sameType, buildColumn_rowCount built, valid, ?_⟩
    intro chars offsets data
    have strings : type = .string := by
      rw [← sameType, Column.semanticType, data]
      rfl
    subst strings
    exact buildColumn_textsInOrder built data
  · intro error failed
    rcases (DrawPlan.exists_of_iff params rows).2 chance with ⟨plan, planned⟩
    exact buildColumn_eq_error rows params engine implemented planned failed

end Built

/--
Five numbers are drawn from a pool of two, half of them null by chance.  A
column of five texts is built the same way, unless its texts are too long; one
without rows is always built.
-/
theorem built_columns_are_wellFormed_five :
    let build := fun type rows =>
      ((buildColumn type rows ⟨⟨0x3F00_0000⟩, 2, 4⟩).run.run (Engine.seeded 7)).1
    Single.IsChance ⟨0x3F00_0000⟩ ∧
      (∃ numbers,
        build (.fixed .int32) 5 = .ok numbers ∧
          numbers.semanticType = .fixed .int32 ∧
            numbers.rowCount = 5 ∧ numbers.validate = .ok ()) ∧
      ((∃ strings chars offsets,
          build .string 5 = .ok strings ∧
            strings.data = .string chars offsets ∧
              strings.rowCount = 5 ∧
                strings.validate = .ok () ∧ TextsInOrder 5 chars offsets) ∨
        ∃ bytes, twoTo 31 ≤ bytes ∧ build .string 5 = .error (.textOverflow bytes)) ∧
      ∃ strings chars offsets,
        build .string 0 = .ok strings ∧
          strings.data = .string chars offsets ∧ TextsInOrder 0 chars offsets := by
  intro build
  have planned :
      DrawPlan.of ⟨⟨0x3F00_0000⟩, 2, 4⟩ 5 = .ok ⟨.below 8388608, .withAverage 4, 2⟩ := by
    rfl
  have chance : Single.IsChance ⟨0x3F00_0000⟩ :=
    (DrawPlan.exists_of_iff _ 5).1 ⟨_, planned⟩
  refine ⟨chance, ?_, ?_, ?_⟩
  · have fit : valuesFit .int32 5 = true := by decide
    rcases exists_buildColumn_fixed planned fit (Engine.seeded 7) with
      ⟨numbers, built⟩
    rcases (built_columns_are_wellFormed rfl chance).1 numbers built with
      ⟨sameType, rowCount, valid, -⟩
    exact ⟨numbers, built, sameType, rowCount, valid⟩
  · have texts := @built_columns_are_wellFormed .string 5
      ⟨⟨0x3F00_0000⟩, 2, 4⟩ (Engine.seeded 7) rfl chance
    cases built : build .string 5 with
    | ok strings =>
        rcases texts.1 strings built with ⟨sameType, rowCount, valid, inOrder⟩
        rcases exists_string_of_semanticType sameType with ⟨chars, offsets, data⟩
        exact
          .inl ⟨strings, chars, offsets, rfl, data, rowCount, valid,
            inOrder chars offsets data⟩
    | error error =>
        have fit : stringsFit 5 = true := by decide
        rcases texts.2 error built with ⟨unfit, -⟩ | ⟨-, bytes, tooMany, rfl⟩
        · cases fit.symm.trans unfit
        · exact .inr ⟨bytes, tooMany, rfl⟩
  · have noRowsPlanned :
        DrawPlan.of ⟨⟨0x3F00_0000⟩, 2, 4⟩ 0 =
          .ok ⟨.below 8388608, .withAverage 4, 0⟩ := by
      rfl
    have noText :
        ∀ cells : List TextCell, cells.length = 0 → TextFits cells := by
      intro cells empty
      rw [List.eq_nil_of_length_eq_zero empty]
      exact TextFits.nil
    have strings :=
      (buildColumn_string_eq_ok_iff 0 _ (Engine.seeded 7)).2
        ⟨_, noRowsPlanned, by decide, noText _ (by decide +kernel),
          noText _ (by decide +kernel), rfl⟩
    have inOrder :=
      ((built_columns_are_wellFormed rfl chance).1 _ strings).2.2.2 _ _ rfl
    exact ⟨_, _, _, strings, rfl, inOrder⟩

end SyntheticTable
