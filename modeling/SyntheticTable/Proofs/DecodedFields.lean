import Mathlib.Data.List.Induction
import Mathlib.Data.List.Pairwise
import SyntheticTable.Proofs.FieldValues

/-!
# Fields of a mapping

The entries of a mapping are read in the order in which they are written, and
what was read so far is kept in a draft with a slot for each known name.  A key
has to be a scalar, and none of the known names may be spelled twice.  The first
entry that is against this, or whose value does not fit, decides the error.
Without such an entry each slot holds in the end what the value with its name
converts to, or nothing if no key spells the name.
-/

namespace SyntheticTable

open Yaml (Document Node)

namespace Decode

/-- An entry of a mapping: a key and a value. -/
abbrev Entry := Node × Node

section Names

variable (document : Document)

/-- The name that a key spells, if it is a scalar. -/
def nameOf? (key : Node) : Option String :=
  match document.resolve key with
  | .scalar _ _ name => some name
  | _ => none

/-- The step from a mapping to the value with a key. -/
def stepTo (name : String) : Node → PathStep
  | .alias _ => .unnamed
  | _ => .field name

/-- Whether no key spells a name. -/
def lacks (entries : List Entry) (name : String) : Bool :=
  entries.all fun entry => decide (nameOf? document entry.1 ≠ some name)

/-- The keys of two entries do not spell the same known name. -/
def Apart (known : List String) (first second : Entry) : Prop :=
  ∀ name ∈ known,
    nameOf? document first.1 = some name → nameOf? document second.1 ≠ some name

instance (known : List String) : Std.Symm (Apart document known) :=
  ⟨fun _ _ apart name isKnown named otherNamed =>
    apart name isKnown otherNamed named⟩

/-- All keys spell names, and no two of them the same known name. -/
structure FieldKeys (known : List String) (entries : List Entry) : Prop where
  named : ∀ entry ∈ entries, ∃ name, nameOf? document entry.1 = some name
  once : entries.Pairwise (Apart document known)

variable {document}

theorem keyName_of_named
    {key : Node}
    {name : String}
    (named : nameOf? document key = some name)
    (path : List PathStep) :
    keyName document path key = .ok (name, stepTo name key) := by
  unfold nameOf? at named
  unfold keyName
  cases key <;> cases resolved : document.resolve _ <;> grind [stepTo]

theorem keyName_of_mismatch
    {key : Node}
    {path : List PathStep}
    {error : DecodeError}
    (unnamed : nameOf? document key = none)
    (mismatch : Mismatch document path .fieldName key error) :
    keyName document path key = .error error := by
  have unfits :
      unfit path .fieldName (document.resolve key)
        = (.error error : Decoded (String × PathStep)) :=
    unfit_of_mismatch mismatch
  unfold nameOf? at unnamed
  unfold keyName
  split <;> simp_all

theorem lacks_iff {entries : List Entry} {name : String} :
    lacks document entries name = true ↔
      ∀ entry ∈ entries, nameOf? document entry.1 ≠ some name := by
  simp [lacks]

/-- A name that is not lacking is spelled by a key. -/
theorem lacks_eq_false_iff {entries : List Entry} {name : String} :
    lacks document entries name = false ↔
      ∃ entry ∈ entries, nameOf? document entry.1 = some name := by
  simp [lacks]

theorem lacks_append {earlier later : List Entry} {name : String} :
    lacks document (earlier ++ later) name
      = (lacks document earlier name && lacks document later name) :=
  List.all_append

section Keys

variable
    {known : List String}
    {entries : List Entry}
    {entry other : Entry}
    {name : String}

/-- Only one entry has a known name. -/
theorem FieldKeys.eq_of_named
    (keys : FieldKeys document known entries)
    (isKnown : name ∈ known)
    (member : entry ∈ entries)
    (named : nameOf? document entry.1 = some name)
    (otherMember : other ∈ entries)
    (otherNamed : nameOf? document other.1 = some name) :
    entry = other := by
  by_contra different
  exact keys.once.forall member otherMember different name isKnown named
    otherNamed

/-- Keys that spell different names are as they should be. -/
theorem FieldKeys.of_nodup
    (named :
      entries.all (fun entry => (nameOf? document entry.1).isSome) = true)
    (distinct : (entries.map fun entry => nameOf? document entry.1).Nodup) :
    FieldKeys document known entries := by
  refine ⟨fun entry member => ?_, ?_⟩
  · exact Option.isSome_iff_exists.mp (List.all_eq_true.mp named entry member)
  · refine (List.pairwise_map.mp distinct).imp fun different name _ isNamed => ?_
    rw [isNamed] at different
    exact different.symm

/-- A further key spells a name, which is a new one if it is known. -/
theorem fieldKeys_append_iff :
    FieldKeys document known (entries ++ [entry]) ↔
      FieldKeys document known entries
        ∧ ∃ name,
          nameOf? document entry.1 = some name
            ∧ (name ∈ known → lacks document entries name = true) := by
  constructor
  · intro keys
    obtain ⟨earlier, -, apart⟩ := List.pairwise_append.mp keys.once
    obtain ⟨name, named⟩ := keys.named entry (by simp)
    refine
      ⟨⟨fun other member => keys.named other (by simp [member]), earlier⟩,
        name, named, fun isKnown => lacks_iff.mpr fun other member same => ?_⟩
    exact apart other member entry (by simp) name isKnown same named
  · rintro ⟨keys, name, named, fresh⟩
    refine ⟨?_, List.pairwise_append.mpr ⟨keys.once, by simp, ?_⟩⟩
    · intro other member
      rcases List.mem_append.mp member with member | last
      · exact keys.named other member
      · rw [List.mem_singleton.mp last]
        exact ⟨name, named⟩
    · intro other member last isLast same isKnown otherNamed lastNamed
      rw [List.mem_singleton.mp isLast, named] at lastNamed
      cases lastNamed
      exact lacks_iff.mp (fresh isKnown) other member otherNamed

/-- The keys of the first entries are as they should be. -/
theorem FieldKeys.before
    {before after : List Entry}
    (keys : FieldKeys document known (before ++ entry :: after)) :
    FieldKeys document known before :=
  ⟨fun other member => keys.named other (by simp [member]),
    (List.pairwise_append.mp keys.once).1⟩

/-- The known name of an entry is not spelled before. -/
theorem FieldKeys.lacks_before
    {before after : List Entry}
    (keys : FieldKeys document known (before ++ entry :: after))
    (isKnown : name ∈ known)
    (named : nameOf? document entry.1 = some name) :
    lacks document before name = true :=
  lacks_iff.mpr fun other member same =>
    (List.pairwise_append.mp keys.once).2.2 other member entry (by simp) name
      isKnown same named

end Keys

end Names

/-! ## What the entries give for a name -/

section Given

variable
    (document : Document)
    (entries : List Entry)
    (name : String)
    {α : Type}
    (Converts : Node → α → Prop)

/-- The value with a name converts to `value`. -/
def Gives (value : α) : Prop :=
  ∃ entry ∈ entries,
    nameOf? document entry.1 = some name ∧ Converts entry.2 value

/-- The value with a name converts to `value`, which is `usual` without one. -/
def GivesOr (usual value : α) : Prop :=
  Gives document entries name Converts value
    ∨ lacks document entries name = true ∧ value = usual

/-- A slot holds what the value with a name converts to, if there is one. -/
def Slotted : Option α → Prop
  | some value => Gives document entries name Converts value
  | none => lacks document entries name = true

variable {document entries name Converts}

namespace Gives

variable {value other : α}

theorem not_lacks (gives : Gives document entries name Converts value) :
    lacks document entries name = false := by
  rcases gives with ⟨entry, member, named, -⟩
  exact lacks_eq_false_iff.mpr ⟨entry, member, named⟩

/-- The entry with a known name converts to what is given for the name. -/
theorem converts
    (gives : Gives document entries name Converts value)
    {known : List String}
    (keys : FieldKeys document known entries)
    (isKnown : name ∈ known)
    {entry : Entry}
    (member : entry ∈ entries)
    (named : nameOf? document entry.1 = some name) :
    Converts entry.2 value := by
  rcases gives with ⟨given, givenMember, givenNamed, converts⟩
  rw [keys.eq_of_named isKnown member named givenMember givenNamed]
  exact converts

theorem unique
    (gives : Gives document entries name Converts value)
    {known : List String}
    (keys : FieldKeys document known entries)
    (isKnown : name ∈ known)
    {read : Reader α}
    {Misfit : List PathStep → Node → DecodeError → Prop}
    (reads : Reads read Converts Misfit)
    (givesOther : Gives document entries name Converts other) :
    value = other := by
  rcases givesOther with ⟨entry, member, named, converts⟩
  exact reads.unique (gives.converts keys isKnown member named) converts

/-- What is given has a property of all that values convert to. -/
theorem property
    (gives : Gives document entries name Converts value)
    {Good : α → Prop}
    (good : ∀ node value, Converts node value → Good value) :
    Good value := by
  rcases gives with ⟨entry, -, -, converts⟩
  exact good entry.2 value converts

end Gives

namespace GivesOr

variable {usual value other : α}

theorem converts
    (gives : GivesOr document entries name Converts usual value)
    {known : List String}
    (keys : FieldKeys document known entries)
    (isKnown : name ∈ known)
    {entry : Entry}
    (member : entry ∈ entries)
    (named : nameOf? document entry.1 = some name) :
    Converts entry.2 value := by
  rcases gives with gives | ⟨lacking, -⟩
  · exact gives.converts keys isKnown member named
  · exact absurd named (lacks_iff.mp lacking entry member)

theorem unique
    (gives : GivesOr document entries name Converts usual value)
    {known : List String}
    (keys : FieldKeys document known entries)
    (isKnown : name ∈ known)
    {read : Reader α}
    {Misfit : List PathStep → Node → DecodeError → Prop}
    (reads : Reads read Converts Misfit)
    (givesOther : GivesOr document entries name Converts usual other) :
    value = other := by
  rcases gives with gives | ⟨lacking, rfl⟩
  · rcases givesOther with givesOther | ⟨lacking, -⟩
    · exact gives.unique keys isKnown reads givesOther
    · simp [gives.not_lacks] at lacking
  · rcases givesOther with givesOther | ⟨-, rfl⟩
    · simp [givesOther.not_lacks] at lacking
    · rfl

end GivesOr

namespace Slotted

variable {slot : Option α} {entry : Entry}

@[simp]
theorem empty : Slotted document [] name Converts none := rfl

/-- What a slot holds is given, and an empty one stands for what is usual. -/
theorem givesOr
    (slotted : Slotted document entries name Converts slot)
    (usual : α) :
    GivesOr document entries name Converts usual (slot.getD usual) := by
  cases slot with
  | none => exact .inr ⟨slotted, rfl⟩
  | some value => exact .inl slotted

/-- A slot without a value stands for a name that no key spells. -/
theorem lacks_eq (slotted : Slotted document entries name Converts slot) :
    lacks document entries name = slot.isNone := by
  cases slot with
  | none => exact slotted
  | some value => exact slotted.not_lacks

/-- Another entry leaves what the entries before it give. -/
theorem append_other
    (slotted : Slotted document entries name Converts slot)
    (others : nameOf? document entry.1 ≠ some name) :
    Slotted document (entries ++ [entry]) name Converts slot := by
  cases slot with
  | none =>
      have lacking : lacks document entries name = true := slotted
      show lacks document (entries ++ [entry]) name = true
      rw [lacks_append, lacking]
      simpa [lacks] using others
  | some value =>
      rcases slotted with ⟨given, member, found⟩
      exact ⟨given, by simp [member], found⟩

end Slotted

end Given

/-! ## Computations that settle an outcome -/

/--
A computation ends well where things fit, and with the error that tells what
does not fit, and one of the two is the case.
-/
structure Settles
    {α : Type}
    (computation : Decoded α)
    (fits : Prop)
    (Misfit : DecodeError → Prop)
    (Good : α → Prop) : Prop where
  accepts : fits → ∃ value, computation = .ok value ∧ Good value
  reports : ∀ error, Misfit error → computation = .error error
  total : fits ∨ ∃ error, Misfit error

theorem Reads.settles
    {α : Type}
    {read : Reader α}
    {Converts : Node → α → Prop}
    {Misfit : List PathStep → Node → DecodeError → Prop}
    (reads : Reads read Converts Misfit)
    (path : List PathStep)
    (node : Node) :
    Settles (read path node) (∃ value, Converts node value) (Misfit path node)
      (Converts node) where
  accepts := fun ⟨value, converts⟩ =>
    ⟨value, reads.accepts converts, converts⟩
  reports := fun _ => reads.reports
  total := reads.total path node

namespace Settles

variable
    {α β : Type}
    {computation : Decoded α}
    {fits nextFits : Prop}
    {Misfit NextMisfit : DecodeError → Prop}
    {Good : α → Prop}
    {Better : β → Prop}

theorem succeeds
    {value : α}
    (isFit : fits)
    (faultless : ∀ error, ¬ Misfit error)
    (good : Good value) :
    Settles (.ok value) fits Misfit Good where
  accepts _ := ⟨value, rfl, good⟩
  reports error misfit := absurd misfit (faultless error)
  total := .inl isFit

/-- What is made of the result of a computation without anything that fails. -/
theorem bind_pure
    (settles : Settles computation fits Misfit Good)
    {change : α → β}
    (improves : ∀ value, Good value → Better (change value)) :
    Settles (computation >>= fun value => pure (change value)) fits Misfit
      Better where
  accepts isFit := by
    obtain ⟨value, computed, good⟩ := settles.accepts isFit
    exact ⟨change value, by rw [computed]; rfl, improves value good⟩
  reports error misfit := by
    rw [settles.reports error misfit]
    rfl
  total := settles.total

/-- Of two computations in a row the first one to fail decides the error. -/
theorem bind
    (settles : Settles computation fits Misfit Good)
    {next : α → Decoded β}
    (continues :
      ∀ value, Good value → Settles (next value) nextFits NextMisfit Better) :
    Settles (computation >>= next) (fits ∧ nextFits)
      (fun error => Misfit error ∨ fits ∧ NextMisfit error) Better where
  accepts := by
    rintro ⟨isFit, nextFit⟩
    obtain ⟨value, rfl, good⟩ := settles.accepts isFit
    exact (continues value good).accepts nextFit
  reports := by
    rintro error (misfit | ⟨isFit, misfit⟩)
    · rw [settles.reports error misfit]
      rfl
    · obtain ⟨value, rfl, good⟩ := settles.accepts isFit
      exact (continues value good).reports error misfit
  total := by
    rcases settles.total with isFit | ⟨error, misfit⟩
    · obtain ⟨value, -, good⟩ := settles.accepts isFit
      rcases (continues value good).total with nextFit | ⟨error, misfit⟩
      · exact .inl ⟨isFit, nextFit⟩
      · exact .inr ⟨error, .inr ⟨isFit, misfit⟩⟩
    · exact .inr ⟨error, .inl misfit⟩

theorem congr
    (settles : Settles computation fits Misfit Good)
    (sameFits : nextFits ↔ fits)
    (sameMisfits : ∀ error, NextMisfit error ↔ Misfit error) :
    Settles computation nextFits NextMisfit Good where
  accepts isFit := settles.accepts (sameFits.mp isFit)
  reports error misfit := settles.reports error ((sameMisfits error).mp misfit)
  total :=
    settles.total.imp sameFits.mpr fun ⟨error, misfit⟩ =>
      ⟨error, (sameMisfits error).mpr misfit⟩

theorem succeeds_iff (settles : Settles computation fits Misfit Good) :
    (∃ value, computation = .ok value) ↔ fits := by
  constructor
  · rintro ⟨value, rfl⟩
    rcases settles.total with isFit | ⟨error, misfit⟩
    · exact isFit
    · cases settles.reports error misfit
  · intro isFit
    obtain ⟨value, computed, -⟩ := settles.accepts isFit
    exact ⟨value, computed⟩

theorem error_iff
    (settles : Settles computation fits Misfit Good)
    {error : DecodeError} :
    computation = .error error ↔ Misfit error := by
  refine ⟨?_, settles.reports error⟩
  rintro rfl
  rcases settles.total with isFit | ⟨other, misfit⟩
  · obtain ⟨value, computed, -⟩ := settles.accepts isFit
    cases computed
  · cases settles.reports other misfit
    exact misfit

/-- The result is the good one, of which there is only one where things fit. -/
theorem ok_iff
    (settles : Settles computation fits Misfit Good)
    (unique : fits → ∀ value other, Good value → Good other → value = other)
    {value : α} :
    computation = .ok value ↔ fits ∧ Good value := by
  constructor
  · rintro rfl
    have isFit := settles.succeeds_iff.mp ⟨value, rfl⟩
    obtain ⟨result, computed, good⟩ := settles.accepts isFit
    cases computed
    exact ⟨isFit, good⟩
  · rintro ⟨isFit, good⟩
    obtain ⟨result, computed, isGood⟩ := settles.accepts isFit
    rw [computed, unique isFit value result good isGood]

end Settles

/-! ## Entries that fit -/

/-- Known names, the values that fit them and what is wrong with the others. -/
structure Fields where
  names : List String
  Fits : String → Node → Prop
  Misfit : String → List PathStep → Node → DecodeError → Prop

section Entries

variable
    (document : Document)
    (fields : Fields)
    (outer : List PathStep)

/-- The values of all known names fit. -/
def ValuesFit (entries : List Entry) : Prop :=
  ∀ entry ∈ entries, ∀ name ∈ fields.names,
    nameOf? document entry.1 = some name → fields.Fits name entry.2

/-- The keys of a mapping are as they should be, and so are the values. -/
structure EntriesFit (entries : List Entry) : Prop where
  keys : FieldKeys document fields.names entries
  values : ValuesFit document fields entries

/-- An entry may follow others. -/
def EntryFits (earlier : List Entry) (entry : Entry) : Prop :=
  ∃ name,
    nameOf? document entry.1 = some name
      ∧ (name ∈ fields.names →
          lacks document earlier name = true ∧ fields.Fits name entry.2)

/-- What is wrong with an entry that follows others. -/
inductive EntryMisfit
    (earlier : List Entry)
    (entry : Entry) : DecodeError → Prop
  | key {error}
      (unnamed : nameOf? document entry.1 = none)
      (mismatch : Mismatch document outer .fieldName entry.1 error) :
      EntryMisfit earlier entry error
  | again {name}
      (isKnown : name ∈ fields.names)
      (named : nameOf? document entry.1 = some name)
      (present : lacks document earlier name = false) :
      EntryMisfit earlier entry ⟨outer, .duplicateField name⟩
  | value {name error}
      (isKnown : name ∈ fields.names)
      (named : nameOf? document entry.1 = some name)
      (fresh : lacks document earlier name = true)
      (misfit :
        fields.Misfit name (outer ++ [stepTo name entry.1]) entry.2 error) :
      EntryMisfit earlier entry error

/-- What is wrong with the first entry that does not fit. -/
inductive FirstMisfit : List Entry → DecodeError → Prop
  | at {before entry after error}
      (fit : EntriesFit document fields before)
      (misfit : EntryMisfit document fields outer before entry error) :
      FirstMisfit (before ++ entry :: after) error

variable {document fields outer}

variable
    {earlier entries : List Entry}
    {entry : Entry}
    {error : DecodeError}

theorem entriesFit_append_iff :
    EntriesFit document fields (entries ++ [entry]) ↔
      EntriesFit document fields entries
        ∧ EntryFits document fields entries entry := by
  constructor
  · rintro ⟨keys, values⟩
    obtain ⟨earlier, name, named, fresh⟩ := fieldKeys_append_iff.mp keys
    refine
      ⟨⟨earlier, fun other member => values other (by simp [member])⟩,
        name, named, fun isKnown => ⟨fresh isKnown, ?_⟩⟩
    exact values entry (by simp) name isKnown named
  · rintro ⟨⟨keys, values⟩, name, named, fits⟩
    refine
      ⟨fieldKeys_append_iff.mpr
        ⟨keys, name, named, fun isKnown => (fits isKnown).1⟩, ?_⟩
    intro other member
    rcases List.mem_append.mp member with member | last
    · exact values other member
    · intro otherName isKnown otherNamed
      rw [List.mem_singleton.mp last] at otherNamed ⊢
      cases named.symm.trans otherNamed
      exact (fits isKnown).2

theorem firstMisfit_append_iff :
    FirstMisfit document fields outer (entries ++ [entry]) error ↔
      FirstMisfit document fields outer entries error
        ∨ EntriesFit document fields entries
          ∧ EntryMisfit document fields outer entries entry error := by
  constructor
  · generalize whole : entries ++ [entry] = all
    rintro ⟨fit, misfit⟩
    next before first after =>
      rcases List.eq_nil_or_concat after with rfl | ⟨others, last, rfl⟩
      · obtain ⟨rfl, same⟩ := List.append_inj' whole rfl
        cases same
        exact .inr ⟨fit, misfit⟩
      · rw [List.concat_eq_append, ← List.cons_append, ← List.append_assoc]
          at whole
        obtain ⟨rfl, -⟩ := List.append_inj' whole rfl
        exact .inl ⟨fit, misfit⟩
  · rintro (⟨fit, misfit⟩ | ⟨fit, misfit⟩)
    · rw [List.append_assoc, List.cons_append]
      exact ⟨fit, misfit⟩
    · exact ⟨fit, misfit⟩

/-! ## Reading entries one after another -/

variable {name : String}

/-- A key that is no scalar ends the reading. -/
theorem settles_of_unnamed
    {σ : Type}
    (unnamed : nameOf? document entry.1 = none)
    (next : String × PathStep → Decoded σ)
    (Good : σ → Prop) :
    Settles (keyName document outer entry.1 >>= next)
      (EntryFits document fields earlier entry)
      (EntryMisfit document fields outer earlier entry) Good where
  accepts := by
    rintro ⟨name, named, -⟩
    cases unnamed.symm.trans named
  reports := by
    intro error misfit
    cases misfit with
    | key _ mismatch => rw [keyName_of_mismatch unnamed mismatch]; rfl
    | again _ named => cases unnamed.symm.trans named
    | value _ named => cases unnamed.symm.trans named
  total := by
    obtain ⟨error, mismatch⟩ :=
      exists_mismatch document outer .fieldName entry.1
    exact .inr ⟨error, .key unnamed mismatch⟩

/-- The entry of a name that is not known is passed over. -/
theorem settles_of_unknown
    {σ : Type}
    {draft : σ}
    {Good : σ → Prop}
    (named : nameOf? document entry.1 = some name)
    (unknown : name ∉ fields.names)
    (good : Good draft) :
    Settles (.ok draft) (EntryFits document fields earlier entry)
      (EntryMisfit document fields outer earlier entry) Good where
  accepts _ := ⟨draft, rfl, good⟩
  reports := by
    intro error misfit
    cases misfit with
    | key unnamed => cases unnamed.symm.trans named
    | again isKnown otherNamed =>
        cases named.symm.trans otherNamed
        exact absurd isKnown unknown
    | value isKnown otherNamed =>
        cases named.symm.trans otherNamed
        exact absurd isKnown unknown
  total := .inl ⟨name, named, fun isKnown => absurd isKnown unknown⟩

/-- The entry of a known name fills the slot of the name, if it is empty. -/
theorem settles_once
    {α : Type}
    {read : Reader α}
    {Converts : Node → α → Prop}
    {slot : Option α}
    (named : nameOf? document entry.1 = some name)
    (isKnown : name ∈ fields.names)
    (reads : Reads read Converts (fields.Misfit name))
    (fits : ∀ node, fields.Fits name node ↔ ∃ value, Converts node value)
    (slotted : Slotted document earlier name Converts slot) :
    Settles
      (once outer name slot (read (outer ++ [stepTo name entry.1]) entry.2))
      (EntryFits document fields earlier entry)
      (EntryMisfit document fields outer earlier entry)
      (Slotted document (earlier ++ [entry]) name Converts) := by
  have lacking := slotted.lacks_eq
  refine ⟨?_, ?_, ?_⟩
  · rintro ⟨other, otherNamed, fit⟩
    cases named.symm.trans otherNamed
    obtain ⟨fresh, fit⟩ := fit isKnown
    obtain ⟨value, converts⟩ := (fits _).mp fit
    cases slot with
    | some value => cases lacking.symm.trans fresh
    | none =>
        refine ⟨some value, ?_, entry, by simp, named, converts⟩
        simp only [once, reads.accepts converts, map_ok]
  · intro error misfit
    cases misfit with
    | key unnamed => cases unnamed.symm.trans named
    | again _ otherNamed present =>
        cases named.symm.trans otherNamed
        cases slot with
        | some value => rfl
        | none => cases lacking.symm.trans present
    | value _ otherNamed fresh misfit =>
        cases named.symm.trans otherNamed
        cases slot with
        | some value => cases lacking.symm.trans fresh
        | none => simp only [once, reads.reports misfit, map_error]
  · cases slot with
    | some value => exact .inr ⟨_, .again isKnown named lacking⟩
    | none =>
        rcases reads.total (outer ++ [stepTo name entry.1]) entry.2 with
          converts | ⟨error, misfit⟩
        · refine .inl ⟨name, named, fun _ => ⟨lacking, ?_⟩⟩
          exact (fits _).mpr converts
        · exact .inr ⟨error, .value isKnown named lacking misfit⟩

/--
If one entry more keeps what a draft says about the entries that were read, then
all entries are read, unless the first one that does not fit ends the reading.
-/
theorem settles_foldlM
    {σ : Type}
    {step : σ → Entry → Decoded σ}
    {Drafted : List Entry → σ → Prop}
    {start : σ}
    (begun : Drafted [] start)
    (advances :
      ∀ earlier entry draft, Drafted earlier draft →
        Settles (step draft entry) (EntryFits document fields earlier entry)
          (EntryMisfit document fields outer earlier entry)
          (Drafted (earlier ++ [entry])))
    (entries : List Entry) :
    Settles (entries.foldlM step start) (EntriesFit document fields entries)
      (FirstMisfit document fields outer entries) (Drafted entries) := by
  induction entries using List.reverseRecOn with
  | nil =>
      refine ⟨fun _ => ⟨start, rfl, begun⟩, ?_, .inl ⟨⟨by simp, .nil⟩, nofun⟩⟩
      generalize whole : ([] : List Entry) = all
      rintro error ⟨_, _⟩
      simp at whole
  | append_singleton entries entry inductionHypothesis =>
      rw [List.foldlM_append]
      simp only [List.foldlM_cons, List.foldlM_nil, bind_pure]
      refine
        (inductionHypothesis.bind fun draft drafted =>
          advances entries entry draft drafted).congr
            entriesFit_append_iff fun error => firstMisfit_append_iff

end Entries

end Decode

end SyntheticTable
