import Mathlib.Tactic.MkIffOfInductiveProp
import SyntheticTable.Proofs.DecodedFields

/-!
# Specifications read by name

A document that holds a mapping from names to values is read as a specification
exactly when the values of the known names fit and no name is missing that has
no usual value.  Neither the order of the entries nor what stands beside the
known names matters for the result.
-/

namespace SyntheticTable

open Yaml (Document Node)

namespace Decode

/-! ## Column parameters -/

section Params

/-- The names of the fields of column parameters. -/
def paramsNames : List String :=
  ["null_frequency", "cardinality", "avg_run_length"]

variable
    (document : Document)
    (path : List PathStep)
    (entries : List Entry)

/-- The values that fit the fields of column parameters. -/
def ParamFits (name : String) (node : Node) : Prop :=
  match name with
  | "null_frequency" => ∃ value, IsFrequency document node value
  | "cardinality" => ∃ value, IsNatural document (twoTo 64) node value
  | "avg_run_length" => ∃ value, IsNatural document (twoTo 32) node value
  | _ => False

/-- What is wrong with the value of a field of column parameters. -/
def ParamMisfit
    (name : String)
    (path : List PathStep)
    (node : Node)
    (error : DecodeError) : Prop :=
  match name with
  | "null_frequency" => FrequencyMisfit document path node error
  | "cardinality" => NaturalMisfit document .count (twoTo 64) path node error
  | "avg_run_length" => NaturalMisfit document .word (twoTo 32) path node error
  | _ => False

/-- The fields of column parameters. -/
def paramsFields : Fields :=
  ⟨paramsNames, ParamFits document, ParamMisfit document⟩

/-- Column parameters are what the entries give, and usual where they do not. -/
@[mk_iff]
structure ParamsGiven (params : ColumnParams) : Prop where
  nullFrequency :
    GivesOr document entries "null_frequency" (IsFrequency document)
      ColumnParams.standard.nullFrequency params.nullFrequency
  cardinality :
    GivesOr document entries "cardinality" (IsNatural document (twoTo 64))
      ColumnParams.standard.cardinality.toNat params.cardinality.toNat
  averageRunLength :
    GivesOr document entries "avg_run_length" (IsNatural document (twoTo 32))
      ColumnParams.standard.averageRunLength.toNat
      params.averageRunLength.toNat

/-- A node holds column parameters, by name. -/
def AreParams (node : Node) (params : ColumnParams) : Prop :=
  ∃ entries,
    HoldsEntries document node entries
      ∧ FieldKeys document paramsNames entries
      ∧ ParamsGiven document entries params

/-- What is wrong with a node that does not hold column parameters. -/
inductive ParamsMisfit (node : Node) : DecodeError → Prop
  | entry {entries error}
      (holds : HoldsEntries document node entries)
      (first : FirstMisfit document (paramsFields document) path entries error) :
      ParamsMisfit node error
  | entries {error}
      (misfit : EntriesMisfit document .params path node error) :
      ParamsMisfit node error

/-- A draft has what the entries give. -/
structure ParamsDrafted (draft : ParamsDraft) : Prop where
  nullFrequency :
    Slotted document entries "null_frequency" (IsFrequency document)
      draft.nullFrequency?
  cardinality :
    Slotted document entries "cardinality" (IsNatural document (twoTo 64))
      draft.cardinality?
  averageRunLength :
    Slotted document entries "avg_run_length" (IsNatural document (twoTo 32))
      draft.averageRunLength?

variable {document path entries}

/-- Each entry of column parameters fills the slot with its name. -/
theorem paramsEntry_settles
    {entry : Entry}
    {draft : ParamsDraft}
    (drafted : ParamsDrafted document entries draft) :
    Settles (paramsEntry document path draft entry)
      (EntryFits document (paramsFields document) entries entry)
      (EntryMisfit document (paramsFields document) path entries entry)
      (ParamsDrafted document (entries ++ [entry])) := by
  unfold paramsEntry
  cases named : nameOf? document entry.1 with
  | none => exact settles_of_unnamed named _ _
  | some name =>
  have nullFrequency (others : nameOf? document entry.1 ≠ some _) :=
    drafted.nullFrequency.append_other others
  have cardinality (others : nameOf? document entry.1 ≠ some _) :=
    drafted.cardinality.append_other others
  have averageRunLength (others : nameOf? document entry.1 ≠ some _) :=
    drafted.averageRunLength.append_other others
  have known (isKnown : name ∈ paramsNames) :
      name ∈ (paramsFields document).names := isKnown
  simp only [keyName_of_named named, bind_ok]
  split
  · subst name
    refine (settles_once named (known (by decide))
      (frequency_reads document) (fun _ => Iff.rfl)
      drafted.nullFrequency).bind_pure ?_
    intro slot slotted
    exact ⟨slotted, cardinality (by simp [named]),
      averageRunLength (by simp [named])⟩
  split
  · subst name
    refine (settles_once named (known (by decide))
      (natural_reads document _ _) (fun _ => Iff.rfl)
      drafted.cardinality).bind_pure ?_
    intro slot slotted
    exact ⟨nullFrequency (by simp [named]), slotted,
      averageRunLength (by simp [named])⟩
  split
  · subst name
    refine (settles_once named (known (by decide))
      (natural_reads document _ _) (fun _ => Iff.rfl)
      drafted.averageRunLength).bind_pure ?_
    intro slot slotted
    exact ⟨nullFrequency (by simp [named]), cardinality (by simp [named]),
      slotted⟩
  · refine settles_of_unknown named (by simp_all [paramsFields, paramsNames])
      ⟨nullFrequency ?_, cardinality ?_, averageRunLength ?_⟩
    all_goals simp_all

/-- A number in a slot that fits into words, or the usual word. -/
theorem Slotted.word_givesOr
    {name : String}
    {bound : Nat}
    {slot : Option Nat}
    (slotted : Slotted document entries name (IsNatural document bound) slot)
    {ω : Type}
    {ofNat : Nat → ω}
    {toNat : ω → Nat}
    (exact : ∀ value < bound, toNat (ofNat value) = value)
    (usual : ω) :
    GivesOr document entries name (IsNatural document bound) (toNat usual)
      (toNat ((slot.map ofNat).getD usual)) := by
  cases slot with
  | none => exact slotted.givesOr (toNat usual)
  | some value =>
      have fits : value < bound :=
        Gives.property slotted fun _ _ converts => converts.2
      rw [Option.map_some, Option.getD_some, exact value fits]
      exact .inl slotted

theorem ParamsDrafted.complete
    {draft : ParamsDraft}
    (drafted : ParamsDrafted document entries draft) :
    ParamsGiven document entries draft.complete where
  nullFrequency := drafted.nullFrequency.givesOr _
  cardinality :=
    drafted.cardinality.word_givesOr
      (fun _ fits => UInt64.toNat_ofNat_of_lt' fits) _
  averageRunLength :=
    drafted.averageRunLength.word_givesOr
      (fun _ fits => UInt32.toNat_ofNat_of_lt' fits) _

theorem ParamsGiven.unique
    (keys : FieldKeys document paramsNames entries)
    {params other : ColumnParams}
    (given : ParamsGiven document entries params)
    (givenOther : ParamsGiven document entries other) :
    params = other := by
  have nullFrequency :=
    given.nullFrequency.unique keys (by decide) (frequency_reads document)
      givenOther.nullFrequency
  have cardinality :=
    given.cardinality.unique keys (by decide)
      (natural_reads document .count (twoTo 64)) givenOther.cardinality
  have averageRunLength :=
    given.averageRunLength.unique keys (by decide)
      (natural_reads document .word (twoTo 32)) givenOther.averageRunLength
  cases params
  cases other
  simp_all [UInt64.toNat_inj, UInt32.toNat_inj]

theorem ParamsGiven.entriesFit
    (keys : FieldKeys document paramsNames entries)
    {params : ColumnParams}
    (given : ParamsGiven document entries params) :
    EntriesFit document (paramsFields document) entries := by
  refine ⟨keys, fun entry member name isKnown named => ?_⟩
  simp only [paramsFields, paramsNames, List.mem_cons, List.not_mem_nil,
    or_false] at isKnown
  rcases isKnown with rfl | rfl | rfl
  · exact ⟨_, given.nullFrequency.converts keys (by decide) member named⟩
  · exact ⟨_, given.cardinality.converts keys (by decide) member named⟩
  · exact ⟨_, given.averageRunLength.converts keys (by decide) member named⟩

/-- The entries of column parameters are read by name. -/
theorem params_settles
    {node : Node}
    (held : HoldsEntries document node entries) :
    Settles (params document path node)
      (EntriesFit document (paramsFields document) entries)
      (FirstMisfit document (paramsFields document) path entries)
      (ParamsGiven document entries) := by
  have read : Decode.entries document path .params node = .ok entries :=
    (entries_reads document .params).accepts held
  have begun : ParamsDrafted document [] ⟨none, none, none⟩ :=
    ⟨.empty, .empty, .empty⟩
  rw [params, read]
  refine (settles_foldlM begun ?_ entries).bind_pure fun draft drafted =>
    drafted.complete
  exact fun _ _ _ => paramsEntry_settles

variable (document)

theorem params_reads :
    Reads (params document) (AreParams document) (ParamsMisfit document) where
  accepts := by
    rintro path node value ⟨entries, held, keys, given⟩
    refine ((params_settles held).ok_iff fun fit _ _ => ?_).mpr
      ⟨given.entriesFit keys, given⟩
    exact ParamsGiven.unique fit.keys
  reports := by
    intro path node error misfit
    cases misfit with
    | entry held first => exact (params_settles held).reports error first
    | entries misfit =>
        have reported :
            Decode.entries document path .params node = .error error :=
          (entries_reads document .params).reports misfit
        rw [params, reported, bind_error]
  total := by
    intro path node
    rcases (entries_reads document .params).total path node with
      ⟨entries, held⟩ | ⟨error, misfit⟩
    · have settles : Settles (params document path node) _ _ _ :=
        params_settles held
      rcases settles.total with fit | ⟨error, first⟩
      · obtain ⟨value, -, given⟩ := settles.accepts fit
        exact .inl ⟨value, entries, held, fit.keys, given⟩
      · exact .inr ⟨error, .entry held first⟩
    · exact .inr ⟨error, .entries misfit⟩

end Params

/-! ## Specifications -/

section Spec

/-- The names of the fields that have no usual value. -/
def requiredNames : List String := ["types", "column_count", "table_bytes"]

/-- The names of the fields of a specification. -/
def specNames : List String := requiredNames ++ ["seed", "params"]

variable
    (document : Document)
    (entries : List Entry)

/-- The fault of a mapping without a name. -/
def missing (name : String) : DecodeError := ⟨[], .missingField name⟩

/-- The first of the required names that no key spells. -/
def firstMissing? : Option String :=
  requiredNames.find? (lacks document entries)

/-- The values that fit the fields of a specification. -/
def SpecFits (name : String) (node : Node) : Prop :=
  match name with
  | "types" => ∃ types, AreTypes document node types
  | "column_count" | "table_bytes" =>
      ∃ value, IsNatural document (twoTo 64) node value
  | "seed" => ∃ seed?, IsSeed document node seed?
  | "params" => ∃ params, AreParams document node params
  | _ => False

/-- What is wrong with the value of a field of a specification. -/
def SpecMisfit
    (name : String)
    (path : List PathStep)
    (node : Node)
    (error : DecodeError) : Prop :=
  match name with
  | "types" => TypesMisfit document path node error
  | "column_count" => NaturalMisfit document .count (twoTo 64) path node error
  | "table_bytes" => NaturalMisfit document .bytes (twoTo 64) path node error
  | "seed" => SeedMisfit document [] path node error
  | "params" => ParamsMisfit document path node error
  | _ => False

/-- The fields of a specification. -/
def specFields : Fields := ⟨specNames, SpecFits document, SpecMisfit document⟩

/-- A specification is what the entries give, and usual where it may be. -/
@[mk_iff]
structure SpecGiven (spec : TableSpec) : Prop where
  types : Gives document entries "types" (AreTypes document) spec.types
  columnCount :
    Gives document entries "column_count" (IsNatural document (twoTo 64))
      spec.columnCount.toNat
  tableBytes :
    Gives document entries "table_bytes" (IsNatural document (twoTo 64))
      spec.tableBytes.toNat
  seed : GivesOr document entries "seed" (IsSeed document) none spec.seed?
  params :
    GivesOr document entries "params" (AreParams document)
      ColumnParams.standard spec.params

/-- A draft has what the entries give. -/
structure SpecDrafted (draft : SpecDraft) : Prop where
  types : Slotted document entries "types" (AreTypes document) draft.types?
  columnCount :
    Slotted document entries "column_count" (IsNatural document (twoTo 64))
      draft.columnCount?
  tableBytes :
    Slotted document entries "table_bytes" (IsNatural document (twoTo 64))
      draft.tableBytes?
  seed : Slotted document entries "seed" (IsSeed document) draft.seed?
  params : Slotted document entries "params" (AreParams document) draft.params?

variable {document entries}

/-- Each entry of a specification fills the slot with its name. -/
theorem specEntry_settles
    {entry : Entry}
    {draft : SpecDraft}
    (drafted : SpecDrafted document entries draft) :
    Settles (specEntry document draft entry)
      (EntryFits document (specFields document) entries entry)
      (EntryMisfit document (specFields document) [] entries entry)
      (SpecDrafted document (entries ++ [entry])) := by
  unfold specEntry
  cases named : nameOf? document entry.1 with
  | none => exact settles_of_unnamed named _ _
  | some name =>
  have types (others : nameOf? document entry.1 ≠ some _) :=
    drafted.types.append_other others
  have columnCount (others : nameOf? document entry.1 ≠ some _) :=
    drafted.columnCount.append_other others
  have tableBytes (others : nameOf? document entry.1 ≠ some _) :=
    drafted.tableBytes.append_other others
  have seed (others : nameOf? document entry.1 ≠ some _) :=
    drafted.seed.append_other others
  have params (others : nameOf? document entry.1 ≠ some _) :=
    drafted.params.append_other others
  have known (isKnown : name ∈ specNames) :
      name ∈ (specFields document).names := isKnown
  simp only [keyName_of_named named, bind_ok]
  split
  · subst name
    refine (settles_once named (known (by decide)) (types_reads document)
      (fun _ => Iff.rfl) drafted.types).bind_pure ?_
    intro slot slotted
    exact ⟨slotted, columnCount (by simp [named]), tableBytes (by simp [named]),
      seed (by simp [named]), params (by simp [named])⟩
  split
  · subst name
    refine (settles_once named (known (by decide)) (natural_reads document _ _)
      (fun _ => Iff.rfl) drafted.columnCount).bind_pure ?_
    intro slot slotted
    exact ⟨types (by simp [named]), slotted, tableBytes (by simp [named]),
      seed (by simp [named]), params (by simp [named])⟩
  split
  · subst name
    refine (settles_once named (known (by decide)) (natural_reads document _ _)
      (fun _ => Iff.rfl) drafted.tableBytes).bind_pure ?_
    intro slot slotted
    exact ⟨types (by simp [named]), columnCount (by simp [named]), slotted,
      seed (by simp [named]), params (by simp [named])⟩
  split
  · subst name
    refine (settles_once named (known (by decide)) (seed_reads document [])
      (fun _ => Iff.rfl) drafted.seed).bind_pure ?_
    intro slot slotted
    exact ⟨types (by simp [named]), columnCount (by simp [named]),
      tableBytes (by simp [named]), slotted, params (by simp [named])⟩
  split
  · subst name
    refine (settles_once named (known (by decide)) (params_reads document)
      (fun _ => Iff.rfl) drafted.params).bind_pure ?_
    intro slot slotted
    exact ⟨types (by simp [named]), columnCount (by simp [named]),
      tableBytes (by simp [named]), seed (by simp [named]), slotted⟩
  · refine settles_of_unknown named
      (by simp_all [specFields, specNames, requiredNames])
      ⟨types ?_, columnCount ?_, tableBytes ?_, seed ?_, params ?_⟩
    all_goals simp_all

theorem firstMissing?_eq_none_iff :
    firstMissing? document entries = none ↔
      ∀ name ∈ requiredNames, lacks document entries name = false := by
  simp [firstMissing?]

theorem settles_missing (name : String) (Good : TableSpec → Prop) :
    Settles (fail [] (.missingField name)) (some name = none)
      (fun error => ∃ other, some name = some other ∧ error = missing other)
      Good where
  accepts := nofun
  reports := by
    rintro error ⟨other, same, rfl⟩
    cases same
    rfl
  total := .inr ⟨_, name, rfl, rfl⟩

/-- A draft is completed unless a required field is missing. -/
theorem SpecDrafted.complete
    {draft : SpecDraft}
    (drafted : SpecDrafted document entries draft) :
    Settles draft.complete (firstMissing? document entries = none)
      (fun error =>
        ∃ name, firstMissing? document entries = some name ∧ error = missing name)
      (SpecGiven document entries) := by
  obtain ⟨types?, columnCount?, tableBytes?, seed?, params?⟩ := draft
  obtain ⟨types, columnCount, tableBytes, seed, params⟩ := drafted
  have first :
      firstMissing? document entries =
        if types?.isNone then some "types"
        else if columnCount?.isNone then some "column_count"
        else if tableBytes?.isNone then some "table_bytes"
        else none := by
    simp only [firstMissing?, requiredNames, List.find?_cons, List.find?_nil,
      types.lacks_eq, columnCount.lacks_eq, tableBytes.lacks_eq]
    cases types? <;> cases columnCount? <;> cases tableBytes? <;> rfl
  rw [first]
  cases types? with
  | none => exact settles_missing _ _
  | some typesValue =>
  cases columnCount? with
  | none => exact settles_missing _ _
  | some columns =>
  cases tableBytes? with
  | none => exact settles_missing _ _
  | some size =>
      have columnsFit : columns < UInt64.size :=
        Gives.property columnCount fun _ _ converts => converts.2
      have sizeFits : size < UInt64.size :=
        Gives.property tableBytes fun _ _ converts => converts.2
      refine .succeeds rfl (by simp) ⟨types, ?_, ?_, ?_, params.givesOr _⟩
      · rw [UInt64.toNat_ofNat_of_lt' columnsFit]
        exact columnCount
      · rw [UInt64.toNat_ofNat_of_lt' sizeFits]
        exact tableBytes
      · have joined : seed?.join = seed?.getD none := by cases seed? <;> rfl
        rw [joined]
        exact seed.givesOr none

theorem SpecGiven.unique
    (keys : FieldKeys document specNames entries)
    {spec other : TableSpec}
    (given : SpecGiven document entries spec)
    (givenOther : SpecGiven document entries other) :
    spec = other := by
  have types :=
    given.types.unique keys (by decide) (types_reads document) givenOther.types
  have columnCount :=
    given.columnCount.unique keys (by decide)
      (natural_reads document .count (twoTo 64)) givenOther.columnCount
  have tableBytes :=
    given.tableBytes.unique keys (by decide)
      (natural_reads document .bytes (twoTo 64)) givenOther.tableBytes
  have seed :=
    given.seed.unique keys (by decide) (seed_reads document []) givenOther.seed
  have params :=
    given.params.unique keys (by decide) (params_reads document)
      givenOther.params
  cases spec
  cases other
  simp_all [UInt64.toNat_inj]

theorem SpecGiven.valuesFit
    (keys : FieldKeys document specNames entries)
    {spec : TableSpec}
    (given : SpecGiven document entries spec) :
    ValuesFit document (specFields document) entries := by
  intro entry member name isKnown named
  simp only [specFields, specNames, requiredNames, List.cons_append,
    List.nil_append, List.mem_cons, List.not_mem_nil, or_false] at isKnown
  rcases isKnown with rfl | rfl | rfl | rfl | rfl
  · exact ⟨_, given.types.converts keys (by decide) member named⟩
  · exact ⟨_, given.columnCount.converts keys (by decide) member named⟩
  · exact ⟨_, given.tableBytes.converts keys (by decide) member named⟩
  · exact ⟨_, given.seed.converts keys (by decide) member named⟩
  · exact ⟨_, given.params.converts keys (by decide) member named⟩

theorem SpecGiven.firstMissing?_eq_none
    {spec : TableSpec}
    (given : SpecGiven document entries spec) :
    firstMissing? document entries = none := by
  refine firstMissing?_eq_none_iff.mpr fun name required => ?_
  simp only [requiredNames, List.mem_cons, List.not_mem_nil, or_false]
    at required
  rcases required with rfl | rfl | rfl
  · exact given.types.not_lacks
  · exact given.columnCount.not_lacks
  · exact given.tableBytes.not_lacks

/-- A specification is read by name from a mapping from names. -/
theorem spec_settles
    (held : HoldsEntries document (document.root?.getD .empty) entries) :
    Settles (Decode.spec document)
      (EntriesFit document (specFields document) entries
        ∧ firstMissing? document entries = none)
      (fun error =>
        FirstMisfit document (specFields document) [] entries error
          ∨ EntriesFit document (specFields document) entries
            ∧ ∃ name,
              firstMissing? document entries = some name
                ∧ error = missing name)
      (SpecGiven document entries) := by
  have read :
      Decode.entries document [] .spec (document.root?.getD .empty)
        = .ok entries :=
    (entries_reads document .spec).accepts held
  have begun : SpecDrafted document [] ⟨none, none, none, none, none⟩ :=
    ⟨.empty, .empty, .empty, .empty, .empty⟩
  rw [Decode.spec, read]
  refine (settles_foldlM begun ?_ entries).bind fun draft drafted =>
    drafted.complete
  exact fun _ _ _ => specEntry_settles

/-- The result is the one specification that the entries give. -/
theorem spec_eq_ok_iff
    (held : HoldsEntries document (document.root?.getD .empty) entries)
    (keys : FieldKeys document specNames entries)
    {spec : TableSpec} :
    Decode.spec document = .ok spec ↔ SpecGiven document entries spec := by
  rw [(spec_settles held).ok_iff fun _ _ _ => SpecGiven.unique keys]
  refine ⟨And.right, fun given => ⟨⟨⟨keys, ?_⟩, ?_⟩, given⟩⟩
  · exact given.valuesFit keys
  · exact given.firstMissing?_eq_none

end Spec

end Decode

end SyntheticTable
