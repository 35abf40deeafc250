import SyntheticTable.Proofs.AssembledNodes
import SyntheticTable.Proofs.WrittenLines
import SyntheticTable.Proofs.WrittenScalars
import SyntheticTable.TableSpec.Render

/-!
# The document of a written specification

The text of a specification is cut into the tokens of one mapping, and these
are put together to a document without anchors.  Its root has the fields of the
specification in the order in which they are written.
-/

namespace SyntheticTable.TableSpec

open Yaml (Field IsKey IsWord Node StartsToken Token blanks wordToken)

/-! ## Lines -/

/-- A field of the document. -/
def written (key value : String) : Field :=
  ⟨key.toList, value.toList⟩

section

variable (spec : TableSpec)

def typeWords : List (List Char) :=
  spec.types.map fun type => type.name.toList

def columnCountField : Field :=
  written "column_count" (toString spec.columnCount.toNat)

def tableBytesField : Field :=
  written "table_bytes" (toString spec.tableBytes.toNat)

def seedField : Field :=
  written "seed" (seedText spec.seed?)

def nullFrequencyField : Field :=
  written "null_frequency" (spec.params.nullFrequency.text .yaml)

def cardinalityField : Field :=
  written "cardinality" (toString spec.params.cardinality.toNat)

def averageRunLengthField : Field :=
  written "avg_run_length" (toString spec.params.averageRunLength.toNat)

/-- The fields of the document between the kinds and the parameters. -/
def tableFields : List Field :=
  [spec.columnCountField, spec.tableBytesField, spec.seedField]

/-- The fields of the parameters. -/
def paramsFields : List Field :=
  [spec.nullFrequencyField, spec.cardinalityField, spec.averageRunLengthField]

@[simp]
theorem length_tableFields : spec.tableFields.length = 3 := rfl

@[simp]
theorem length_paramsFields : spec.paramsFields.length = 3 := rfl

/-- The text after the key of the parameters. -/
def paramsText : List Char :=
  '\n' :: blanks 2
    ++ Yaml.fieldLines 2 0 [] spec.nullFrequencyField
      [spec.cardinalityField, spec.averageRunLengthField]

/-- The text after the list of kinds. -/
def fieldsText : List Char :=
  Yaml.fieldLines 0 0 ("params".toList ++ ':' :: spec.paramsText)
    spec.columnCountField [spec.tableBytesField, spec.seedField]

/-- The text after the key of the list of kinds. -/
def typesText : List Char :=
  if spec.types.isEmpty then
    ' ' :: '[' :: ']' :: '\n' :: blanks 0 ++ spec.fieldsText
  else
    '\n' :: blanks 0 ++ Yaml.entryLines 0 spec.fieldsText spec.typeWords

theorem entryLines_typeWords (rest : List Char) :
    Yaml.entryLines 0 rest spec.typeWords =
      (spec.types.flatMap fun type => '-' :: ' ' :: type.name.toList ++ ['\n'])
        ++ rest := by
  unfold typeWords
  induction spec.types with
  | nil => rfl
  | cons type types inductionHypothesis =>
      simpa [Yaml.entryLines, blanks] using inductionHypothesis

/-- The text is the key of the list of kinds and what stands below. -/
theorem toList_toYaml :
    spec.toYaml.toList = "types".toList ++ ':' :: spec.typesText := by
  unfold toYaml yamlLines typeLines typesText
  by_cases none : spec.types.isEmpty = true
  · simp [none, fieldsText, paramsText, Yaml.fieldLines, Field.line, blanks,
      columnCountField, tableBytesField, seedField, nullFrequencyField,
      cardinalityField, averageRunLengthField, written]
  · rw [if_neg none, if_neg none, entryLines_typeWords]
    simp [fieldsText, paramsText, Yaml.fieldLines, Field.line, blanks,
      columnCountField, tableBytesField, seedField, nullFrequencyField,
      cardinalityField, averageRunLengthField, written, List.flatMap_map]

/-! ## Words -/

theorem isReadable_written
    {key value : String}
    (isKey : IsKey key.toList)
    (isWord : IsWord value.toList) :
    (written key value).IsReadable :=
  ⟨isKey, isWord⟩

theorem isWord_seedText (seed? : Option UInt32) :
    IsWord (seedText seed?).toList := by
  cases seed? with
  | none => decide
  | some seed => exact isWord_toString seed.toNat

theorem isKey_types : IsKey "types".toList := by decide

theorem isKey_params : IsKey "params".toList := by decide

theorem tableFields_readable :
    ∀ field ∈ spec.tableFields, field.IsReadable := by
  simp only [tableFields, List.mem_cons, List.not_mem_nil, or_false,
    forall_eq_or_imp, forall_eq]
  refine ⟨isReadable_written ?_ (isWord_toString _),
    isReadable_written ?_ (isWord_toString _),
    isReadable_written ?_ (isWord_seedText _)⟩
  all_goals decide

theorem paramsFields_readable :
    ∀ field ∈ spec.paramsFields, field.IsReadable := by
  simp only [paramsFields, List.mem_cons, List.not_mem_nil, or_false,
    forall_eq_or_imp, forall_eq]
  refine ⟨isReadable_written ?_ (Single.isWord_text _),
    isReadable_written ?_ (isWord_toString _),
    isReadable_written ?_ (isWord_toString _)⟩
  all_goals decide

theorem isWord_of_mem_typeWords :
    ∀ word ∈ spec.typeWords, IsWord word := by
  intro word member
  obtain ⟨type, -, rfl⟩ := List.mem_map.mp member
  exact type.isWord_name

theorem all_isAllowed_toYaml :
    spec.toYaml.toList.all Yaml.isAllowed = true := by
  have params : spec.paramsText.all Yaml.isAllowed = true := by
    rw [paramsText, List.all_append, List.all_cons,
      Yaml.all_isAllowed_fieldLines spec.paramsFields_readable 2 0 rfl]
    rfl
  have fields : spec.fieldsText.all Yaml.isAllowed = true := by
    apply Yaml.all_isAllowed_fieldLines spec.tableFields_readable
    rw [List.all_append, List.all_cons, params]
    decide
  have entries : spec.typesText.all Yaml.isAllowed = true := by
    unfold typesText
    split
    · rw [List.all_append, fields]
      decide
    · rw [List.all_append,
        Yaml.all_isAllowed_entryLines spec.isWord_of_mem_typeWords fields]
      decide
  rw [toList_toYaml, List.all_append, List.all_cons, entries]
  decide

/-! ## Tokens -/

/-- The tokens of the list of kinds. -/
def typeTokens : List Token :=
  if spec.types.isEmpty then [.flowSequenceStart, .flowSequenceEnd]
  else Yaml.entryTokens spec.typeWords

/-- The tokens of the parameters, without those that end the mapping. -/
def paramsTokens : List Token :=
  .blockMappingStart :: Yaml.fieldTokens spec.paramsFields

/-- The tokens of the document. -/
def documentTokens : List Token :=
  .blockMappingStart :: .key :: wordToken "types".toList :: .value
    :: (spec.typeTokens ++ Yaml.fieldTokens spec.tableFields
      ++ .key :: wordToken "params".toList :: .value
        :: (spec.paramsTokens ++ [.blockEnd, .blockEnd]))

section

open Yaml.Scan

variable {spec : TableSpec} {scan : Yaml.Scan} {tokens : List Token}

theorem startsToken_fieldsText : StartsToken spec.fieldsText :=
  Yaml.startsToken_fieldLines (spec.tableFields_readable _ List.mem_cons_self)
    0 0 _ _

/-- The list of kinds in either form. -/
theorem leads_types
    (afterKey : AfterKey scan [0] tokens spec.typesText) :
    ∃ later,
      Leads scan later
        ∧ AtLine later 0 [0] (tokens ++ spec.typeTokens) spec.fieldsText := by
  unfold typesText at afterKey
  by_cases none : spec.types.isEmpty = true
  · rw [if_pos none] at afterKey
    obtain ⟨_, blankRead, beforeBrackets⟩ := leads_blank afterKey
    obtain ⟨_, bracketsRead, afterBrackets⟩ := leads_brackets beforeBrackets
    obtain ⟨later, feedRead, atLater⟩ := leads_feed afterBrackets
    refine ⟨later, (blankRead.trans bracketsRead).trans feedRead, ?_⟩
    rwa [typeTokens, if_pos none]
  · rw [if_neg none] at afterKey
    obtain ⟨_, feedRead, atEntries⟩ := leads_feed afterKey
    obtain ⟨later, entriesRead, atLater⟩ :=
      leads_entries atEntries spec.isWord_of_mem_typeWords
        startsToken_fieldsText
    refine ⟨later, feedRead.trans entriesRead, ?_⟩
    rwa [typeTokens, if_neg none]

/-- The parameters, which are indented below their name. -/
theorem leads_params
    (afterKey : AfterKey scan [0] tokens spec.paramsText) :
    ∃ later,
      Leads scan later
        ∧ AtLine later 0 [2, 0] (tokens ++ spec.paramsTokens) [] := by
  obtain ⟨_, feedRead, atFields⟩ := leads_feed afterKey
  obtain ⟨later, fieldsRead, atLater⟩ :=
    leads_fields atFields spec.paramsFields_readable (by decide) (by decide) rfl
  exact ⟨later, feedRead.trans fieldsRead, atLater⟩

theorem leads_document (spec : TableSpec) :
    ∃ later,
      Leads (.start spec.toYaml.toList) later
        ∧ AtLine later 0 [2, 0]
          (.blockMappingStart :: .key :: wordToken "types".toList :: .value
            :: (spec.typeTokens ++ Yaml.fieldTokens spec.tableFields
              ++ .key :: wordToken "params".toList :: .value
                :: spec.paramsTokens))
          [] := by
  have atStart :
      AtLine (.start spec.toYaml.toList) 0 [] []
        ("types".toList ++ ':' :: spec.typesText) :=
    ⟨spec.toList_toYaml, rfl, rfl, rfl, rfl, rfl, rfl⟩
  have ends : Yaml.endsWord spec.typesText = true := by
    unfold typesText
    split <;> rfl
  obtain ⟨_, typesKey, afterTypes⟩ :=
    leads_key atStart isKey_types ends (by decide)
  obtain ⟨_, typesRead, atFields⟩ := leads_types afterTypes
  obtain ⟨_, fieldsRead, atParams⟩ :=
    leads_fields atFields spec.tableFields_readable (by decide) (by decide)
      (Yaml.startsToken_append isKey_params.isWord _)
  obtain ⟨_, paramsKey, afterParams⟩ :=
    leads_key atParams isKey_params rfl (by decide)
  obtain ⟨later, paramsRead, atLater⟩ := leads_params afterParams
  refine
    ⟨later,
      (((typesKey.trans typesRead).trans fieldsRead).trans paramsKey).trans
        paramsRead, ?_⟩
  simpa [keyTokens, startsMapping, innermost, indentsOfKey, Yaml.fieldTokens,
    tableFields] using atLater

/-- The tokens of the text are those of the document. -/
theorem tokens?_toYaml (spec : TableSpec) :
    Yaml.tokens? spec.toYaml = some spec.documentTokens := by
  obtain ⟨later, leads, atLater⟩ := leads_document spec
  obtain ⟨reached, gap, nothing, finished⟩ := finish_of_atLine atLater
  have all := leads.tokens gap nothing
  rw [finished] at all
  rw [Yaml.tokens?]
  simp only [spec.all_isAllowed_toYaml, if_true]
  refine all.trans ?_
  simp [documentTokens, List.replicate_succ]

end

/-! ## Nodes -/

open Yaml (fieldNodes wordNode)

/-- The node of the list of kinds. -/
def typesNode : Node :=
  .sequence none (spec.typeWords.map wordNode)

/-- The node of the parameters. -/
def paramsNode : Node :=
  .mapping none (fieldNodes spec.paramsFields)

/-- The root of the document. -/
def documentNode : Node :=
  .mapping none
    ((wordNode "types".toList, spec.typesNode)
      :: (fieldNodes spec.tableFields
        ++ [(wordNode "params".toList, spec.paramsNode)]))

section

open Yaml.Assemble

variable (spec : TableSpec) {rest : List Token}

theorem reads_types (noEntry : rest.head? ≠ some .blockEntry) :
    Reads blockPart (spec.types.length + 6) spec.typeTokens rest
      spec.typesNode := by
  unfold typeTokens typesNode
  cases types : spec.types with
  | nil =>
      have words : spec.typeWords = [] := by rw [typeWords, types]; rfl
      rw [words]
      exact
        (reads_part ⟨_, _, rfl, by decide⟩ (reads_brackets true true)).mono
          (by omega)
  | cons type others =>
      have words :
          spec.typeWords =
            type.name.toList :: others.map fun type => type.name.toList := by
        rw [typeWords, types]
        rfl
      rw [words]
      have read :=
        reads_part ⟨_, _, rfl, by decide⟩
          (reads_sequence
            (List.cons_ne_nil type.name.toList
              (others.map fun type => type.name.toList))
            noEntry)
      exact read.mono (by simp)

theorem reads_params :
    Reads blockPart 26 (spec.paramsTokens ++ [.blockEnd]) rest
      spec.paramsNode := by
  have fields :=
    reads_fields spec.paramsFields
      (reads_noEntries : Reads blockEntries 1 [.blockEnd] rest [])
  have mapping := reads_mapping true fields
  have part := reads_part ⟨_, _, rfl, by decide⟩ mapping
  simpa [paramsTokens, paramsNode] using part.mono (by simp)

/-- The tokens of the document are put together to its root. -/
theorem reads_document :
    Reads (node true false) (spec.types.length + 64) spec.documentTokens []
      spec.documentNode := by
  have params :=
    reads_entry "params".toList spec.reads_params
      (reads_noEntries : Reads blockEntries 1 [.blockEnd] [] [])
  have fields := reads_fields spec.tableFields params
  have types :=
    reads_entry "types".toList
      (spec.reads_types (by simp [Yaml.fieldTokens, tableFields])) fields
  have mapping := reads_mapping false types
  simpa [documentTokens, documentNode] using mapping.mono (by simp)

/-- The document of the text. -/
theorem ofText?_toYaml :
    ∃ size,
      Yaml.Document.ofText? spec.toYaml =
        some
          { root? := some spec.documentNode
            anchored := #[]
            meanings := #[]
            size } := by
  have enough :
      spec.types.length + 64 ≤ 4 * spec.documentTokens.length + 16 := by
    have entries : spec.types.length ≤ spec.typeTokens.length := by
      cases types : spec.types with
      | nil => exact Nat.zero_le _
      | cons type others =>
          have words : spec.typeWords.length = (type :: others).length := by
            rw [typeWords, types, List.length_map]
          rw [typeTokens, types, if_neg (by simp), Yaml.length_entryTokens,
            words]
          omega
    have others :
        spec.documentTokens.length = spec.typeTokens.length + 34 := by
      simp only [documentTokens, paramsTokens, List.length_cons,
        List.length_nil, List.length_append, Yaml.length_fieldTokens,
        length_tableFields, length_paramsFields]
    omega
  obtain ⟨size, last, assembled⟩ :=
    document_of_reads spec.reads_document enough
      ⟨spec.documentTokens, [], [], #[], #[], 0⟩ rfl
  refine ⟨size, ?_⟩
  simp [Yaml.Document.ofText?, spec.tokens?_toYaml, assembled]

end

end

end SyntheticTable.TableSpec
