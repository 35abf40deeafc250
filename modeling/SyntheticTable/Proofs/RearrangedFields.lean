import Mathlib
import SyntheticTable.Proofs.DecodedDocuments

/-!
# Rearranged fields

Two documents may hold the same values for the known names, while the entries
stand in another order, other names stand beside them, and aliases stand in
place of what they refer to.  Such documents are read as the same specification.
-/

namespace SyntheticTable

open Yaml (Document Node)

namespace Decode

/--
Two nodes in two documents have the same value: the same scalar, items with the
same values in the same order, or mappings from names that give the same values
for the fields of column parameters.
-/
inductive SameValue (left right : Document) : Node → Node → Prop
  | scalar
      {node other style tag? text}
      (resolved : left.resolve node = .scalar style tag? text)
      (otherResolved : right.resolve other = .scalar style tag? text) :
      SameValue left right node other
  | sequence
      {node other tag? otherTag? items others}
      (resolved : left.resolve node = .sequence tag? items)
      (otherResolved : right.resolve other = .sequence otherTag? others)
      (same : List.Forall₂ (SameValue left right) items others) :
      SameValue left right node other
  | mapping
      {node other tag? otherTag? entries others}
      (resolved : left.resolve node = .mapping tag? entries)
      (otherResolved : right.resolve other = .mapping otherTag? others)
      (keys : FieldKeys left paramsNames entries)
      (otherKeys : FieldKeys right paramsNames others)
      (lacking :
        ∀ name ∈ paramsNames, lacks left entries name = lacks right others name)
      (same :
        ∀ name ∈ paramsNames, ∀ entry ∈ entries, ∀ other ∈ others,
          nameOf? left entry.1 = some name →
            nameOf? right other.1 = some name →
              SameValue left right entry.2 other.2) :
      SameValue left right node other

/--
Two mappings give the same values for some names.  Where the entries stand and
what else stands beside them is left open.
-/
structure SameFields
    (left right : Document)
    (names : List String)
    (entries others : List Entry) : Prop where
  lacking :
    ∀ name ∈ names, lacks left entries name = lacks right others name
  same :
    ∀ name ∈ names, ∀ entry ∈ entries, ∀ other ∈ others,
      nameOf? left entry.1 = some name →
        nameOf? right other.1 = some name →
          SameValue left right entry.2 other.2

/-- Nodes with the same values convert to the same. -/
def Agree
    (left right : Document)
    {α : Type}
    (Converts ConvertsOther : Node → α → Prop) : Prop :=
  ∀ node other,
    SameValue left right node other →
      ∀ value, Converts node value ↔ ConvertsOther other value

section Values

variable
    {left right : Document}
    {node other : Node}

/-- Of two nodes with the same value both are the same scalar, or none is one. -/
theorem SameValue.scalar_iff
    (same : SameValue left right node other)
    {style : Yaml.ScalarStyle}
    {tag? : Option Yaml.Tag}
    {text : String} :
    left.resolve node = .scalar style tag? text ↔
      right.resolve other = .scalar style tag? text := by
  cases same <;> simp_all

theorem natural_agree (bound : Nat) :
    Agree left right (IsNatural left bound) (IsNatural right bound) := by
  intro node other same value
  simp only [IsNatural, SpellsNatural, same.scalar_iff]

theorem frequency_agree :
    Agree left right (IsFrequency left) (IsFrequency right) := by
  intro node other same value
  simp only [IsFrequency, SpellsNumber, same.scalar_iff]

theorem seed_agree : Agree left right (IsSeed left) (IsSeed right) := by
  intro node other same value
  simp only [isSeed_iff, isNoSeed_iff, IsNullTagged, same.scalar_iff,
    natural_agree _ _ _ same]

theorem typeName_agree :
    Agree left right (IsTypeName left) (IsTypeName right) := by
  intro node other same type
  simp only [IsTypeName, same.scalar_iff]

theorem typeNames_agree
    {items others : List Node}
    (same : List.Forall₂ (SameValue left right) items others)
    (types : List SemanticType) :
    List.Forall₂ (IsTypeName left) items types ↔
      List.Forall₂ (IsTypeName right) others types := by
  induction same generalizing types with
  | nil => simp only [List.forall₂_nil_left_iff]
  | cons first _ inductionHypothesis =>
      simp only [List.forall₂_cons_left_iff, typeName_agree _ _ first,
        inductionHypothesis]

theorem SameValue.isLeftOut_iff (same : SameValue left right node other) :
    IsLeftOut left node ↔ IsLeftOut right other := by
  simp only [IsLeftOut, same.scalar_iff]

theorem types_agree : Agree left right (AreTypes left) (AreTypes right) := by
  intro node other same value
  rw [areTypes_iff, areTypes_iff, same.isLeftOut_iff]
  refine or_congr ?_ Iff.rfl
  cases same with
  | scalar resolved otherResolved => simp [resolved, otherResolved]
  | sequence resolved otherResolved same =>
      simpa [resolved, otherResolved] using typeNames_agree same value
  | mapping resolved otherResolved _ _ _ _ => simp [resolved, otherResolved]

end Values

/-! ## Mappings -/

section Mappings

variable
    {left right : Document}
    {names : List String}
    {entries others : List Entry}
    {name : String}
    {α : Type}
    {Converts ConvertsOther : Node → α → Prop}

/-- Where names are spelled once, one entry for each of them is enough. -/
theorem SameFields.of_keys
    (keys : FieldKeys left names entries)
    (otherKeys : FieldKeys right names others)
    (same :
      ∀ name ∈ names,
        lacks left entries name = true ∧ lacks right others name = true
          ∨ ∃ entry ∈ entries, ∃ other ∈ others,
            nameOf? left entry.1 = some name
              ∧ nameOf? right other.1 = some name
              ∧ SameValue left right entry.2 other.2) :
    SameFields left right names entries others := by
  refine ⟨fun name isKnown => ?_, ?_⟩
  · rcases same name isKnown with
      ⟨lacking, otherLacking⟩ | ⟨entry, member, other, otherMember, held⟩
    · rw [lacking, otherLacking]
    · rw [lacks_eq_false_iff.mpr ⟨entry, member, held.1⟩,
        lacks_eq_false_iff.mpr ⟨other, otherMember, held.2.1⟩]
  · intro name isKnown entry member other otherMember named otherNamed
    rcases same name isKnown with
      ⟨lacking, -⟩ | ⟨given, givenMember, givenOther, givenOtherMember, held⟩
    · exact absurd named (lacks_iff.mp lacking entry member)
    · rw [keys.eq_of_named isKnown member named givenMember held.1,
        otherKeys.eq_of_named isKnown otherMember otherNamed givenOtherMember
          held.2.1]
      exact held.2.2

/-- A name that one of two mappings gives a value, both give the same value. -/
theorem SameFields.gives_iff
    (fields : SameFields left right names entries others)
    (known : name ∈ names)
    (agree : Agree left right Converts ConvertsOther)
    (value : α) :
    Gives left entries name Converts value ↔
      Gives right others name ConvertsOther value := by
  have lacking := fields.lacking name known
  constructor
  · intro gives
    have present := gives.not_lacks
    rw [lacking, lacks_eq_false_iff] at present
    obtain ⟨other, otherMember, otherNamed⟩ := present
    obtain ⟨entry, member, named, converts⟩ := gives
    have same :=
      fields.same name known entry member other otherMember named otherNamed
    exact ⟨other, otherMember, otherNamed, (agree _ _ same _).mp converts⟩
  · intro gives
    have present := gives.not_lacks
    rw [← lacking, lacks_eq_false_iff] at present
    obtain ⟨entry, member, named⟩ := present
    obtain ⟨other, otherMember, otherNamed, converts⟩ := gives
    have same :=
      fields.same name known entry member other otherMember named otherNamed
    exact ⟨entry, member, named, (agree _ _ same _).mpr converts⟩

theorem SameFields.givesOr_iff
    (fields : SameFields left right names entries others)
    (known : name ∈ names)
    (agree : Agree left right Converts ConvertsOther)
    (usual value : α) :
    GivesOr left entries name Converts usual value ↔
      GivesOr right others name ConvertsOther usual value := by
  rw [GivesOr, GivesOr, fields.gives_iff known agree,
    fields.lacking name known]

theorem SameFields.paramsGiven_iff
    (fields : SameFields left right paramsNames entries others)
    (params : ColumnParams) :
    ParamsGiven left entries params ↔ ParamsGiven right others params := by
  rw [Decode.paramsGiven_iff, Decode.paramsGiven_iff]
  exact
    and_congr (fields.givesOr_iff (by decide) frequency_agree _ _)
      (and_congr
        (fields.givesOr_iff (by decide) (natural_agree _) _ _)
        (fields.givesOr_iff (by decide) (natural_agree _) _ _))

theorem fieldKeys_nil {document : Document} : FieldKeys document names [] :=
  ⟨by simp, .nil⟩

theorem params_agree : Agree left right (AreParams left) (AreParams right) := by
  intro node other same value
  simp only [AreParams, holdsEntries_iff, same.isLeftOut_iff]
  cases same with
  | scalar resolved otherResolved =>
      have nothing : SameFields left right paramsNames [] [] :=
        ⟨fun _ _ => rfl, by simp⟩
      simp [resolved, otherResolved, fieldKeys_nil,
        nothing.paramsGiven_iff value]
  | sequence resolved otherResolved _ =>
      simp [resolved, otherResolved, IsLeftOut]
  | mapping resolved otherResolved keys otherKeys lacking same =>
      have fields := SameFields.paramsGiven_iff ⟨lacking, same⟩ value
      simp [resolved, otherResolved, IsLeftOut, keys, otherKeys, fields]

theorem SameFields.specGiven_iff
    (fields : SameFields left right specNames entries others)
    (spec : TableSpec) :
    SpecGiven left entries spec ↔ SpecGiven right others spec := by
  rw [Decode.specGiven_iff, Decode.specGiven_iff]
  exact
    and_congr (fields.gives_iff (by decide) types_agree _)
      (and_congr (fields.gives_iff (by decide) (natural_agree _) _)
        (and_congr (fields.gives_iff (by decide) (natural_agree _) _)
          (and_congr (fields.givesOr_iff (by decide) seed_agree _ _)
            (fields.givesOr_iff (by decide) params_agree _ _))))

end Mappings

/-! ## Texts -/

/--
A text is a document that holds a mapping from names, in which no known name is
written twice.
-/
structure HoldsMapping
    (text : String)
    (document : Document)
    (entries : List Entry) : Prop where
  assembled : Document.ofText? text = some document
  root :
    ∃ tag?,
      document.resolve (document.root?.getD .empty) = .mapping tag? entries
  keys : FieldKeys document specNames entries

section Texts

variable
    {text : String}
    {document : Document}
    {entries : List Entry}

theorem HoldsMapping.holdsEntries (holds : HoldsMapping text document entries) :
    HoldsEntries document (document.root?.getD .empty) entries := by
  obtain ⟨tag?, root⟩ := holds.root
  exact .mapping root

theorem HoldsMapping.ofYaml_eq (holds : HoldsMapping text document entries) :
    TableSpec.ofYaml text = (Decode.spec document).mapError .decode := by
  simp only [TableSpec.ofYaml, holds.assembled]

/-- Where the keys are as they should be, only a value can be the first misfit. -/
theorem firstMisfit_iff_value
    {fields : Fields}
    (keys : FieldKeys document fields.names entries)
    {outer : List PathStep}
    {error : DecodeError} :
    FirstMisfit document fields outer entries error ↔
      ∃ before entry after,
        entries = before ++ entry :: after
          ∧ ValuesFit document fields before
          ∧ ∃ name ∈ fields.names,
            nameOf? document entry.1 = some name
              ∧ fields.Misfit name (outer ++ [stepTo name entry.1]) entry.2
                error := by
  constructor
  · rintro ⟨fit, misfit⟩
    next before entry after =>
      refine ⟨before, entry, after, rfl, fit.values, ?_⟩
      cases misfit with
      | key unnamed =>
          obtain ⟨name, named⟩ := keys.named entry (by simp)
          cases unnamed.symm.trans named
      | again isKnown named present =>
          cases (keys.lacks_before isKnown named).symm.trans present
      | value isKnown named _ misfit => exact ⟨_, isKnown, named, misfit⟩
  · rintro ⟨before, entry, after, rfl, fit, name, isKnown, named, misfit⟩
    exact
      ⟨⟨keys.before, fit⟩,
        .value isKnown named (keys.lacks_before isKnown named) misfit⟩

end Texts

end Decode

/--
What is read from a mapping depends on the values of the known names alone, in
any order and among any others, at both levels.  All of them have to convert to
the values of their fields, with the usual value for what may be left out, and
the error is that of the first value that does not convert, or else of the first
missing name.
-/
theorem TableSpec.ofYaml_by_name
    {text : String}
    {document : Document}
    {entries : List Decode.Entry}
    (holds : Decode.HoldsMapping text document entries) :
    ((∃ spec, ofYaml text = .ok spec) ↔
        (∀ name ∈ Decode.requiredNames,
            Decode.lacks document entries name = false)
          ∧ ∀ entry ∈ entries, ∀ name ∈ Decode.specNames,
            Decode.nameOf? document entry.1 = some name →
              Decode.SpecFits document name entry.2)
      ∧ (∀ spec,
        ofYaml text = .ok spec ↔ Decode.SpecGiven document entries spec)
      ∧ (∀ error,
        ofYaml text = .error error ↔
          ∃ cause,
            error = .decode cause
              ∧ ((∃ before entry after,
                  entries = before ++ entry :: after
                    ∧ (∀ other ∈ before, ∀ name ∈ Decode.specNames,
                      Decode.nameOf? document other.1 = some name →
                        Decode.SpecFits document name other.2)
                    ∧ ∃ name ∈ Decode.specNames,
                      Decode.nameOf? document entry.1 = some name
                        ∧ Decode.SpecMisfit document name
                          [Decode.stepTo name entry.1] entry.2 cause)
                ∨ (∀ entry ∈ entries, ∀ name ∈ Decode.specNames,
                    Decode.nameOf? document entry.1 = some name →
                      Decode.SpecFits document name entry.2)
                  ∧ ∃ name,
                    Decode.firstMissing? document entries = some name
                      ∧ cause = ⟨[], .missingField name⟩))
      ∧ ∀ other otherDocument others,
        Decode.HoldsMapping other otherDocument others
          → Decode.SameFields document otherDocument Decode.specNames
              entries others
          → ∀ spec, ofYaml text = .ok spec ↔ ofYaml other = .ok spec := by
  have settles := Decode.spec_settles holds.holdsEntries
  have succeeds (spec : TableSpec) :
      ofYaml text = .ok spec ↔ Decode.SpecGiven document entries spec := by
    rw [holds.ofYaml_eq, mapError_eq_ok_iff,
      Decode.spec_eq_ok_iff holds.holdsEntries holds.keys]
  have fit_iff :
      Decode.EntriesFit document (Decode.specFields document) entries ↔
        Decode.ValuesFit document (Decode.specFields document) entries :=
    ⟨fun fit => fit.values, fun values => ⟨holds.keys, values⟩⟩
  refine ⟨?_, succeeds, ?_, ?_⟩
  · simp only [holds.ofYaml_eq, mapError_eq_ok_iff]
    rw [settles.succeeds_iff, fit_iff, Decode.firstMissing?_eq_none_iff,
      and_comm]
    rfl
  · intro error
    rw [holds.ofYaml_eq, mapError_eq_error_iff]
    refine exists_congr fun cause => ?_
    rw [settles.error_iff, fit_iff, Decode.firstMisfit_iff_value holds.keys,
      and_comm, eq_comm]
    rfl
  · intro other otherDocument others holdsOther fields spec
    rw [succeeds, fields.specGiven_iff, holdsOther.ofYaml_eq,
      mapError_eq_ok_iff,
      Decode.spec_eq_ok_iff holdsOther.holdsEntries holdsOther.keys]

/-! ## A specification in two orders -/

namespace Decode.Sample

/-- A scalar as it stands without quotes. -/
def word (text : String) : Node := .scalar .plain none text

/-- A mapping as a document of some size, without any anchors. -/
def document (entries : List Entry) (size : Nat) : Document :=
  ⟨some (.mapping none entries), #[], #[], size⟩

def types : Node := .sequence none [word "Bool", word "string"]

def cardinality : Entry := (word "cardinality", word "3")

def params : Node := .mapping none [(word "y", word "1"), cardinality]

def entries : List Entry :=
  [(word "table_bytes", word "4"), (word "types", types),
    (word "params", params), (word "column_count", word "2")]

def reversed : List Entry :=
  [(word "column_count", word "2"),
    (word "params", .mapping none [cardinality]), (word "types", types),
    (word "x", word "1"), (word "table_bytes", word "4")]

def refused : List Entry :=
  [(word "seed", word "~"),
    (word "types", .sequence none [word "bool", word "int128"])]

def text : String :=
  "table_bytes: 4\ntypes:\n- Bool\n- string\nparams:\n y: 1\n cardinality: 3\ncolumn_count: 2"

def reversedText : String :=
  "column_count: 2\nparams:\n cardinality: 3\ntypes:\n- Bool\n- string\nx: 1\ntable_bytes: 4"

def refusedText : String := "seed: ~\ntypes:\n- bool\n- int128"

def spec : TableSpec where
  types := [.fixed .bool, .string]
  columnCount := 2
  tableBytes := 4
  seed? := none
  params := { ColumnParams.standard with cardinality := 3 }

theorem text_holds : HoldsMapping text (document entries 18) entries :=
  ⟨by cbv, ⟨none, rfl⟩,
    .of_nodup (by decide +kernel) (by decide +kernel)⟩

theorem reversedText_holds :
    HoldsMapping reversedText (document reversed 18) reversed :=
  ⟨by cbv, ⟨none, rfl⟩,
    .of_nodup (by decide +kernel) (by decide +kernel)⟩

theorem refusedText_holds :
    HoldsMapping refusedText (document refused 9) refused :=
  ⟨by cbv, ⟨none, rfl⟩,
    .of_nodup (by decide +kernel) (by decide +kernel)⟩

theorem params_same :
    SameValue (document entries 18) (document reversed 18) params
      (.mapping none [cardinality]) := by
  have keys :
      FieldKeys (document entries 18) paramsNames
        [(word "y", word "1"), cardinality] :=
    .of_nodup (by decide +kernel) (by decide +kernel)
  have otherKeys :
      FieldKeys (document reversed 18) paramsNames [cardinality] :=
    .of_nodup (by decide +kernel) (by decide +kernel)
  have fields :
      SameFields (document entries 18) (document reversed 18) paramsNames
        [(word "y", word "1"), cardinality] [cardinality] := by
    refine .of_keys keys otherKeys fun name isKnown => ?_
    simp only [paramsNames, List.mem_cons, List.not_mem_nil, or_false]
      at isKnown
    rcases isKnown with rfl | rfl | rfl
    · exact .inl (by decide +kernel)
    · exact .inr ⟨cardinality, by simp, cardinality, by simp, rfl, rfl,
        .scalar rfl rfl⟩
    · exact .inl (by decide +kernel)
  exact .mapping rfl rfl keys otherKeys fields.lacking fields.same

theorem sameFields :
    SameFields (document entries 18) (document reversed 18) specNames entries
      reversed := by
  refine .of_keys text_holds.keys reversedText_holds.keys fun name isKnown => ?_
  simp only [specNames, requiredNames, List.cons_append, List.nil_append,
    List.mem_cons, List.not_mem_nil, or_false] at isKnown
  rcases isKnown with rfl | rfl | rfl | rfl | rfl
  · exact .inr ⟨(word "types", types), by simp [entries],
      (word "types", types), by simp [reversed], rfl, rfl,
      .sequence rfl rfl (.cons (.scalar rfl rfl) (.cons (.scalar rfl rfl) .nil))⟩
  · exact .inr ⟨(word "column_count", word "2"), by simp [entries],
      (word "column_count", word "2"), by simp [reversed], rfl, rfl,
      .scalar rfl rfl⟩
  · exact .inr ⟨(word "table_bytes", word "4"), by simp [entries],
      (word "table_bytes", word "4"), by simp [reversed], rfl, rfl,
      .scalar rfl rfl⟩
  · exact .inl (by decide +kernel)
  · exact .inr ⟨(word "params", params), by simp [entries],
      (word "params", .mapping none [cardinality]), by simp [reversed], rfl,
      rfl, params_same⟩

/-- The second of two items is the first one that names no kind. -/
theorem types_refused :
    TypesMisfit (document refused 9) [.field "types"]
      (.sequence none [word "bool", word "int128"])
      ⟨[.field "types"], .unknownType ⟨"int128"⟩⟩ := by
  have refusal : SemanticType.ofName "int128" = .error ⟨"int128"⟩ := by
    decide +kernel
  have named : SemanticType.NamedBy (.fixed .bool) "bool" :=
    SemanticType.ofName_eq_ok_iff_namedBy.mp (by decide +kernel)
  have resolved :
      (document refused 9).resolve
          (.sequence none [word "bool", word "int128"])
        = .sequence none ([word "bool"] ++ word "int128" :: []) := rfl
  refine .item resolved ?_
    (.unknown rfl (SemanticType.ofName_eq_error_iff.mp refusal).1)
  intro item member
  rw [List.mem_singleton.mp member]
  exact ⟨_, _, _, _, rfl, named⟩

end Decode.Sample

/--
A mapping with a list of kinds and with parameters that is read in any order,
and one whose list holds an unknown name.
-/
theorem TableSpec.ofYaml_by_name_reversed :
    (∃ document entries,
        Decode.HoldsMapping Decode.Sample.text document entries
          ∧ Decode.SpecGiven document entries Decode.Sample.spec)
      ∧ ofYaml Decode.Sample.text = .ok Decode.Sample.spec
      ∧ ofYaml Decode.Sample.reversedText = .ok Decode.Sample.spec
      ∧ ofYaml Decode.Sample.refusedText =
        .error (.decode ⟨[.field "types"], .unknownType ⟨"int128"⟩⟩) := by
  have outcomes := ofYaml_by_name Decode.Sample.text_holds
  have read : ofYaml Decode.Sample.text = .ok Decode.Sample.spec := by
    decide +kernel
  refine ⟨⟨_, _, Decode.Sample.text_holds, (outcomes.2.1 _).mp read⟩, read,
    (outcomes.2.2.2 _ _ _ Decode.Sample.reversedText_holds
      Decode.Sample.sameFields _).mp read, ?_⟩
  refine ((ofYaml_by_name Decode.Sample.refusedText_holds).2.2.1 _).mpr
    ⟨_, rfl, .inl ⟨[_], _, [], rfl, ?_, "types", by decide, rfl,
      Decode.Sample.types_refused⟩⟩
  intro entry member name isKnown named
  rw [List.mem_singleton.mp member] at named ⊢
  cases named
  exact ⟨none, .nothing (.word rfl rfl)⟩

end SyntheticTable
