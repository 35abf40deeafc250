import SyntheticTable.Proofs.TypeNames
import SyntheticTable.Proofs.WrittenSpec
import SyntheticTable.TableSpec.Decode

/-!
# Written specifications are read back

Reading the document of a written specification gives the specification again,
whatever its kinds, counts and seed are.  Only the null frequency may change: it
becomes the number that its own text is read as.  So a specification whose null
frequency is read back as itself survives being written.
-/

namespace SyntheticTable

open Yaml (Document wordNode)

/-! ## Values of words -/

namespace Decode

variable (document : Document) (path : List PathStep)

theorem natural_written
    (wanted : Wanted)
    {number bound : Nat}
    (below : number < bound) :
    natural document path wanted bound (wordNode (toString number).toList) =
      .ok number := by
  have read := Yaml.naturalOf?_toString number
  simp only [natural, wordNode, Document.resolve, String.ofList_toList, mayBe,
    read]
  simp [below]

theorem frequency_written
    {number : Single}
    {found : Double}
    (read : Yaml.numberOf? (number.text .yaml) = some found) :
    frequency document path (wordNode (number.text .yaml).toList) =
      .ok found.toSingle := by
  simp only [frequency, wordNode, Document.resolve, String.ofList_toList, mayBe,
    read]
  simp

theorem isNothing_toString (number : Nat) :
    isNothing (toString number) = false := by
  have digits := allDigits_decimalDigits number
  have different
      (word : String)
      (other : word.toList.all Char.isDigit = false) :
      toString number ≠ word := by
    intro equal
    rw [← equal, toList_toString, List.all_eq_false] at other
    obtain ⟨character, member, notDigit⟩ := other
    exact notDigit (digits character member)
  have notEmpty : (toString number).isEmpty = false := by
    rw [String.isEmpty_eq_false_iff]
    intro equal
    exact decimalDigits_ne_nil number (by rw [← toList_toString, equal]; rfl)
  have others :
      ∀ word ∈ ["null", "Null", "NULL", "~"],
        word.toList.all Char.isDigit = false := by
    decide
  rw [isNothing, notEmpty, Yaml.isNullWord, Bool.false_or,
    List.contains_eq_mem, decide_eq_false_iff_not]
  exact fun member => different _ (others _ member) rfl

theorem seed_written (outer : List PathStep) (seed? : Option UInt32) :
    seed document outer path (wordNode (TableSpec.seedText seed?).toList) =
      .ok seed? := by
  cases seed? with
  | none =>
      have text : isNothing "null" = true := by decide
      simp only [Decode.seed, wordNode, TableSpec.seedText, Document.resolve,
        String.ofList_toList, text, if_true]
      rfl
  | some seed =>
      have read := natural_written document path .word seed.toNat_lt
      simp only [wordNode, String.ofList_toList] at read
      simp only [Decode.seed, wordNode, TableSpec.seedText, Document.resolve,
        String.ofList_toList, isNothing_toString, read]
      simp [bind, Except.bind, pure, Except.pure]

theorem typeNames_written (index : Nat) (types : List SemanticType) :
    typeNames document path index
        (types.map fun type => wordNode type.name.toList) =
      .ok types := by
  induction types generalizing index with
  | nil => rfl
  | cons type types inductionHypothesis =>
      have first :
          typeName document path index (wordNode type.name.toList) = .ok type := by
        simp only [typeName, wordNode, Document.resolve, String.ofList_toList,
          type.ofName_name]
      rw [List.map_cons, typeNames, first, inductionHypothesis]
      rfl

theorem keyName_word (name : String) :
    keyName document path (wordNode name.toList) = .ok (name, .field name) := by
  simp [keyName, wordNode, Document.resolve]

/-- Column parameters are read back but for the null frequency. -/
theorem params_written
    (spec : TableSpec)
    {found : Double}
    (read :
      Yaml.numberOf? (spec.params.nullFrequency.text .yaml) = some found) :
    params document path spec.paramsNode =
      .ok { spec.params with nullFrequency := found.toSingle } := by
  have cardinality (path : List PathStep) :=
    natural_written document path .count spec.params.cardinality.toNat_lt
  have runLength (path : List PathStep) :=
    natural_written document path .word spec.params.averageRunLength.toNat_lt
  simp only [params, TableSpec.paramsNode, entries, Document.resolve,
    Yaml.fieldNodes, TableSpec.paramsFields, TableSpec.nullFrequencyField,
    TableSpec.cardinalityField, TableSpec.averageRunLengthField,
    TableSpec.written, List.map_cons,
    List.map_nil]
  simp only [List.foldlM_cons, List.foldlM_nil, paramsEntry, keyName_word,
    frequency_written _ _ read, cardinality, runLength, once, bind, Except.bind,
    pure, Except.pure, Except.map, String.reduceEq, if_true, if_false,
    ParamsDraft.complete]
  simp

theorem types_written (spec : TableSpec) :
    types document path spec.typesNode = .ok spec.types := by
  simp only [types, TableSpec.typesNode, Document.resolve,
    TableSpec.typeWords, List.map_map]
  exact typeNames_written document path 0 spec.types

theorem spec_written
    (spec : TableSpec)
    {document : Document}
    (root : document.root? = some spec.documentNode)
    {found : Double}
    (read :
      Yaml.numberOf? (spec.params.nullFrequency.text .yaml) = some found) :
    Decode.spec document =
      .ok
        { spec with
          params := { spec.params with nullFrequency := found.toSingle } } := by
  have columnCount (path : List PathStep) :=
    natural_written document path .count spec.columnCount.toNat_lt
  have tableBytes (path : List PathStep) :=
    natural_written document path .bytes spec.tableBytes.toNat_lt
  simp only [Decode.spec, root, Option.getD_some, TableSpec.documentNode,
    entries, Document.resolve, Yaml.fieldNodes, TableSpec.tableFields,
    TableSpec.columnCountField, TableSpec.tableBytesField, TableSpec.seedField,
    TableSpec.written, List.map_cons, List.map_nil, List.cons_append, List.nil_append]
  simp only [List.foldlM_cons, List.foldlM_nil, specEntry, keyName_word,
    types_written, columnCount, tableBytes, seed_written,
    params_written _ _ spec read, once, bind, Except.bind, pure, Except.pure,
    Except.map, String.reduceEq, if_true, if_false, SpecDraft.complete]
  simp

end Decode

/-! ## Texts -/

/-- What the text of a number of 32 bits is read as in a document. -/
def Single.readBack? (number : Single) : Option Single :=
  (Yaml.numberOf? (number.text .yaml)).map Double.toSingle

namespace TableSpec

/-- A request is the same with a null frequency that is the same number. -/
theorem sameRequest_of_sameNumber
    (spec : TableSpec)
    {frequency : Single}
    (same : frequency.sameNumber spec.params.nullFrequency = true) :
    sameRequest
        { spec with params := { spec.params with nullFrequency := frequency } }
        spec = true := by
  simp [sameRequest, same]

/-- A written specification is read back but for the null frequency. -/
theorem exists_ofYaml_toYaml (spec : TableSpec) :
    ∃ frequency,
      spec.params.nullFrequency.readBack? = some frequency
        ∧ ofYaml spec.toYaml =
          .ok
            { spec with
              params := { spec.params with nullFrequency := frequency } } := by
  obtain ⟨found, read⟩ := spec.params.nullFrequency.numberOf?_text
  obtain ⟨size, document⟩ := spec.ofText?_toYaml
  refine ⟨found.toSingle, by rw [Single.readBack?, read]; rfl, ?_⟩
  simp only [ofYaml, document]
  rw [Decode.spec_written spec rfl read]
  rfl

/--
Every specification can be written and read back.  All of it stays the same but
the null frequency, which becomes what its text is read as.  So the whole stays
the same if the null frequency does, be it to the bit or as a number.
-/
theorem ofYaml_toYaml (spec : TableSpec) :
    ∃ frequency,
      spec.params.nullFrequency.readBack? = some frequency
        ∧ ofYaml spec.toYaml =
          .ok
            { spec with
              params := { spec.params with nullFrequency := frequency } }
        ∧ (frequency = spec.params.nullFrequency →
          ofYaml spec.toYaml = .ok spec)
        ∧ (frequency.sameNumber spec.params.nullFrequency = true →
          ∃ found,
            ofYaml spec.toYaml = .ok found ∧ found.sameRequest spec = true) := by
  obtain ⟨frequency, back, read⟩ := exists_ofYaml_toYaml spec
  refine ⟨frequency, back, read, ?_, ?_⟩
  · intro same
    rw [read, same]
  · intro same
    exact ⟨_, read, sameRequest_of_sameNumber spec same⟩

/-- A null frequency that is written with a power of ten, two kinds and a seed. -/
theorem ofYaml_toYaml_scientific :
    let spec : TableSpec :=
      { types := [.fixed (.timestamp .milliseconds), .string]
        columnCount := 3
        tableBytes := 18446744073709551615
        seed? := some 7
        params := { ColumnParams.standard with nullFrequency := ⟨0x33D6BF95⟩ } }
    spec.params.nullFrequency.text .yaml = "1e-7"
      ∧ ofYaml spec.toYaml = .ok spec
      ∧ ∃ found,
        ofYaml spec.toYaml = .ok found ∧ found.sameRequest spec = true := by
  intro spec
  obtain ⟨frequency, back, -, same, sameNumber⟩ := ofYaml_toYaml spec
  have itself : spec.params.nullFrequency.readBack? = some ⟨0x33D6BF95⟩ := by
    decide +kernel
  have unchanged : frequency = spec.params.nullFrequency :=
    Option.some.inj (back.symm.trans itself)
  refine ⟨by decide +kernel, same unchanged, sameNumber ?_⟩
  rw [unchanged]
  decide +kernel

end TableSpec

end SyntheticTable
