import Mathlib.Tactic.MkIffOfInductiveProp
import SyntheticTable.Proofs.Failure
import SyntheticTable.Proofs.TypeNames
import SyntheticTable.TableSpec.Decode

/-!
# Values of fields

Which nodes of a document convert to the value of a field, and to which value,
is told here without the functions that read them.  So is what is wrong with
the other nodes.  What a single scalar spells is left to the language: a whole
number, a number, or nothing at all.

Each reader accepts the nodes that convert, reports what is wrong with those
that do not, and there is no third kind of nodes.
-/

namespace SyntheticTable

open Yaml (Atom CoreTag Document Node ScalarStyle Tag)

namespace Decode

/-- What is read from a node at a path. -/
abbrev Reader (α : Type) := List PathStep → Node → Decoded α

/--
A reader accepts the nodes that convert to a value, and reports the errors of
those that do not.
-/
structure Reads
    {α : Type}
    (read : Reader α)
    (Converts : Node → α → Prop)
    (Misfit : List PathStep → Node → DecodeError → Prop) : Prop where
  accepts :
    ∀ {path node value}, Converts node value → read path node = .ok value
  reports :
    ∀ {path node error}, Misfit path node error → read path node = .error error
  total :
    ∀ path node,
      (∃ value, Converts node value) ∨ ∃ error, Misfit path node error

/-- A node converts to one value at most. -/
theorem Reads.unique
    {α : Type}
    {read : Reader α}
    {Converts : Node → α → Prop}
    {Misfit : List PathStep → Node → DecodeError → Prop}
    (reads : Reads read Converts Misfit)
    {node : Node}
    {value other : α}
    (converts : Converts node value)
    (convertsOther : Converts node other) :
    value = other := by
  have accepted : read [] node = .ok value := reads.accepts converts
  have acceptedOther : read [] node = .ok other := reads.accepts convertsOther
  exact Except.ok.inj (accepted.symm.trans acceptedOther)

section Kinds

variable (document : Document)

/-! ## Nodes of another kind -/

/-- The error for a node that is not of the kind that is wanted. -/
inductive Mismatch
    (path : List PathStep)
    (wanted : Wanted)
    (node : Node) : DecodeError → Prop
  | scalar {style tag? text atom}
      (resolved : document.resolve node = .scalar style tag? text)
      (found : Atom.ofScalar style tag? text = .ok atom) :
      Mismatch path wanted node ⟨path, .invalidType (.ofAtom atom) wanted⟩
  /-- The text of a scalar is not what its own tag asks for. -/
  | tagged {style tag? text error}
      (resolved : document.resolve node = .scalar style tag? text)
      (unlike : Atom.ofScalar style tag? text = .error error) :
      Mismatch path wanted node ⟨path, .tagMismatch error⟩
  | sequence {tag? items}
      (resolved : document.resolve node = .sequence tag? items) :
      Mismatch path wanted node ⟨path, .invalidType .sequence wanted⟩
  | mapping {tag? entries}
      (resolved : document.resolve node = .mapping tag? entries) :
      Mismatch path wanted node ⟨path, .invalidType .mapping wanted⟩
  /-- An alias that does not lead to any other node. -/
  | unresolved {number}
      (resolved : document.resolve node = .alias number) :
      Mismatch path wanted node ⟨path, .invalidType .null wanted⟩

variable {document}

theorem unfit_of_mismatch
    {α : Type}
    {path : List PathStep}
    {wanted : Wanted}
    {node : Node}
    {error : DecodeError}
    (mismatch : Mismatch document path wanted node error) :
    (unfit path wanted (document.resolve node) : Decoded α)
      = .error error := by
  cases mismatch with
  | scalar resolved found => simp only [resolved, unfit, found, fail]
  | tagged resolved unlike => simp only [resolved, unfit, unlike, fail]
  | sequence resolved => rw [resolved]; rfl
  | mapping resolved => rw [resolved]; rfl
  | unresolved resolved => rw [resolved]; rfl

variable (document)

theorem exists_mismatch
    (path : List PathStep)
    (wanted : Wanted)
    (node : Node) :
    ∃ error, Mismatch document path wanted node error := by
  match resolved : document.resolve node with
  | .scalar style tag? text =>
      cases found : Atom.ofScalar style tag? text with
      | ok atom => exact ⟨_, .scalar resolved found⟩
      | error error => exact ⟨_, .tagged resolved found⟩
  | .sequence _ _ => exact ⟨_, .sequence resolved⟩
  | .mapping _ _ => exact ⟨_, .mapping resolved⟩
  | .alias _ => exact ⟨_, .unresolved resolved⟩

/-! ## Whole numbers -/

/--
A scalar counts as a number where it stands without quotes, or as a literal
block with the tag of that kind of numbers.
-/
def Unquoted
    (tag : CoreTag)
    (style : ScalarStyle)
    (tag? : Option Tag) : Prop :=
  style = .plain
    ∨ style = .literal ∧ tag?.bind CoreTag.ofTag? = some tag

theorem mayBe_iff {tag : CoreTag} {style : ScalarStyle} {tag? : Option Tag} :
    mayBe tag style tag? = true ↔ Unquoted tag style tag? := by
  simp [mayBe, Unquoted]

/-- A node is a scalar that spells a whole number. -/
def SpellsNatural (node : Node) (value : Nat) : Prop :=
  ∃ style tag? text,
    document.resolve node = .scalar style tag? text
      ∧ Unquoted .integer style tag?
      ∧ Yaml.naturalOf? text.toList = some value

/-- A node is a whole number below a bound. -/
def IsNatural (bound : Nat) (node : Node) (value : Nat) : Prop :=
  SpellsNatural document node value ∧ value < bound

/--
What is wrong with a node that is no whole number below a bound.  A number of
more than 64 bits does not count as one that is too great.
-/
inductive NaturalMisfit
    (wanted : Wanted)
    (bound : Nat)
    (path : List PathStep)
    (node : Node) : DecodeError → Prop
  | tooGreat {value}
      (spells : SpellsNatural document node value)
      (great : bound ≤ value)
      (short : value < twoTo 64) :
      NaturalMisfit wanted bound path node ⟨path, .tooGreat value wanted⟩
  | mismatch {error}
      (unlike :
        ∀ value, SpellsNatural document node value →
          bound ≤ value ∧ twoTo 64 ≤ value)
      (mismatch : Mismatch document path wanted node error) :
      NaturalMisfit wanted bound path node error

section Natural

variable
    {document}
    {path : List PathStep}
    {wanted : Wanted}
    {bound : Nat}
    {node : Node}

theorem natural_of_spells {value : Nat}
    (spells : SpellsNatural document node value) :
    natural document path wanted bound node =
      if value < bound then .ok value
      else if value < twoTo 64 then fail path (.tooGreat value wanted)
      else unfit path wanted (document.resolve node) := by
  obtain ⟨style, tag?, text, resolved, unquoted, spelled⟩ := spells
  simp only [natural, resolved, mayBe_iff.mpr unquoted, spelled]

theorem natural_of_not_spells
    (unlike : ∀ value, ¬ SpellsNatural document node value) :
    natural document path wanted bound node =
      unfit path wanted (document.resolve node) := by
  unfold natural
  split
  · next style tag? text resolved =>
      rw [resolved]
      split
      · next value unquoted spelled =>
          exact absurd ⟨_, _, _, resolved, mayBe_iff.mp unquoted, spelled⟩
            (unlike value)
      · rfl
  · rfl

theorem SpellsNatural.unique {value other : Nat}
    (spells : SpellsNatural document node value)
    (spellsOther : SpellsNatural document node other) :
    value = other := by
  obtain ⟨_, _, _, resolved, -, spelled⟩ := spells
  obtain ⟨_, _, _, resolvedOther, -, spelledOther⟩ := spellsOther
  cases resolved.symm.trans resolvedOther
  exact Option.some.inj (spelled.symm.trans spelledOther)

variable (document wanted bound)

theorem natural_reads :
    Reads (fun path => natural document path wanted bound)
      (IsNatural document bound) (NaturalMisfit document wanted bound) where
  accepts := by
    rintro path node value ⟨spells, below⟩
    simp only [natural_of_spells spells, below, if_true]
  reports := by
    intro path node error misfit
    cases misfit with
    | tooGreat spells great short =>
        simp only [natural_of_spells spells, great.not_gt, short, if_true,
          if_false, fail]
    | mismatch unlike mismatch =>
        have unfits : unfit path wanted _ = (.error error : Decoded Nat) :=
          unfit_of_mismatch mismatch
        by_cases spelled : ∃ value, SpellsNatural document node value
        · obtain ⟨value, spells⟩ := spelled
          obtain ⟨great, long⟩ := unlike value spells
          simp only [natural_of_spells spells, great.not_gt, long.not_gt,
            if_false, unfits]
        · simp only [natural_of_not_spells (not_exists.mp spelled), unfits]
  total := by
    intro path node
    obtain ⟨error, mismatch⟩ := exists_mismatch document path wanted node
    by_cases spelled : ∃ value, SpellsNatural document node value
    · obtain ⟨value, spells⟩ := spelled
      by_cases below : value < bound
      · exact .inl ⟨value, spells, below⟩
      by_cases short : value < twoTo 64
      · exact .inr ⟨_, .tooGreat spells (Nat.not_lt.mp below) short⟩
      · refine .inr ⟨error, .mismatch ?_ mismatch⟩
        intro other spellsOther
        rw [← spells.unique spellsOther]
        exact ⟨Nat.not_lt.mp below, Nat.not_lt.mp short⟩
    · refine .inr ⟨error, .mismatch ?_ mismatch⟩
      intro value spells
      exact absurd ⟨value, spells⟩ spelled

end Natural

/-! ## Frequencies -/

/-- A node is a scalar that spells a number of 64 bits. -/
def SpellsNumber (node : Node) (number : Double) : Prop :=
  ∃ style tag? text,
    document.resolve node = .scalar style tag? text
      ∧ Unquoted .number style tag?
      ∧ Yaml.numberOf? text = some number

/-- A node is a null frequency: a number, rounded to 32 bits. -/
def IsFrequency (node : Node) (value : Single) : Prop :=
  ∃ number, SpellsNumber document node number ∧ number.toSingle = value

/-- What is wrong with a node that is no null frequency. -/
structure FrequencyMisfit
    (path : List PathStep)
    (node : Node)
    (error : DecodeError) : Prop where
  unlike : ∀ number, ¬ SpellsNumber document node number
  mismatch : Mismatch document path .frequency node error

section Frequency

variable
    {document}
    {path : List PathStep}
    {node : Node}

theorem frequency_of_spells {number : Double}
    (spells : SpellsNumber document node number) :
    frequency document path node = .ok number.toSingle := by
  obtain ⟨style, tag?, text, resolved, unquoted, spelled⟩ := spells
  simp only [frequency, resolved, mayBe_iff.mpr unquoted, spelled]

theorem frequency_of_not_spells
    (unlike : ∀ number, ¬ SpellsNumber document node number) :
    frequency document path node =
      unfit path .frequency (document.resolve node) := by
  unfold frequency
  split
  · next style tag? text resolved =>
      rw [resolved]
      split
      · next number unquoted spelled =>
          exact absurd ⟨_, _, _, resolved, mayBe_iff.mp unquoted, spelled⟩
            (unlike number)
      · rfl
  · rfl

variable (document)

theorem frequency_reads :
    Reads (frequency document) (IsFrequency document)
      (FrequencyMisfit document) where
  accepts := by
    rintro path node value ⟨number, spells, rfl⟩
    exact frequency_of_spells spells
  reports := by
    intro path node error misfit
    rw [frequency_of_not_spells misfit.unlike]
    exact unfit_of_mismatch misfit.mismatch
  total := by
    intro path node
    by_cases spelled : ∃ number, SpellsNumber document node number
    · obtain ⟨number, spells⟩ := spelled
      exact .inl ⟨_, number, spells, rfl⟩
    · obtain ⟨error, mismatch⟩ := exists_mismatch document path .frequency node
      exact .inr ⟨error, not_exists.mp spelled, mismatch⟩

end Frequency

/-! ## Seeds -/

/-- A node with the tag of null. -/
def IsNullTagged (node : Node) (text : String) : Prop :=
  ∃ tag,
    document.resolve node = .scalar .plain (some tag) text
      ∧ CoreTag.ofTag? tag = some .null

/-- A node stands for no seed: it is left empty or a word for null. -/
@[mk_iff]
inductive IsNoSeed (node : Node) : Prop
  | empty (resolved : document.resolve node = .scalar .plain none "")
  | word {text}
      (resolved : document.resolve node = .scalar .plain none text)
      (null : Yaml.isNullWord text = true)
  | tagged {text}
      (nullTagged : IsNullTagged document node text)
      (null : Yaml.isNullWord text = true)

/-- A node is no seed, or a seed of 32 bits. -/
@[mk_iff]
inductive IsSeed (node : Node) : Option UInt32 → Prop
  | nothing (absent : IsNoSeed document node) : IsSeed node none
  | given {value}
      (untagged : ∀ text, ¬ IsNullTagged document node text)
      (converts : IsNatural document (twoTo 32) node value) :
      IsSeed node (some (.ofNat value))

/--
What is wrong with a node that is neither a seed nor none.  Where the tag of
null is wrong, the error is that of the mapping around the node.
-/
inductive SeedMisfit
    (outer path : List PathStep)
    (node : Node) : DecodeError → Prop
  | tagged {text}
      (nullTagged : IsNullTagged document node text)
      (unlike : Yaml.isNullWord text = false) :
      SeedMisfit outer path node ⟨outer, .tagMismatch ⟨text, .null⟩⟩
  | natural {error}
      (present : ¬ IsNoSeed document node)
      (untagged : ∀ text, ¬ IsNullTagged document node text)
      (misfit : NaturalMisfit document .word (twoTo 32) path node error) :
      SeedMisfit outer path node error

section Seed

variable
    {document}
    {outer path : List PathStep}
    {node : Node}

theorem seed_of_isNoSeed (absent : IsNoSeed document node) :
    seed document outer path node = .ok none := by
  cases absent with
  | empty resolved => simp [seed, resolved, isNothing]
  | word resolved null => simp [seed, resolved, isNothing, null]
  | tagged nullTagged null =>
      obtain ⟨tag, resolved, ofNull⟩ := nullTagged
      simp [seed, resolved, ofNull, null]

theorem seed_of_present
    (present : ¬ IsNoSeed document node)
    (untagged : ∀ text, ¬ IsNullTagged document node text) :
    seed document outer path node =
      (natural document path .word (twoTo 32) node).map
        (some ∘ UInt32.ofNat) := by
  unfold seed
  split
  · next text resolved =>
      have something : isNothing text = false := by
        simp only [isNothing, Bool.or_eq_false_iff]
        refine ⟨?_, Bool.eq_false_iff.mpr fun null => present (.word resolved null)⟩
        refine Bool.eq_false_iff.mpr fun empty => present (.empty ?_)
        rw [resolved, String.isEmpty_iff.mp empty]
      rw [something]
      rfl
  · next tag text resolved =>
      rw [if_neg fun ofNull => untagged text ⟨tag, resolved, ofNull⟩]
      rfl
  · rfl

/-- A text that stands for nothing spells no number. -/
theorem naturalOf?_eq_none_of_isNothing {text : String}
    (nothing : isNothing text = true) :
    Yaml.naturalOf? text.toList = none := by
  simp only [isNothing, Yaml.isNullWord, Bool.or_eq_true, String.isEmpty_iff,
    List.contains_eq_mem, decide_eq_true_eq, List.mem_cons, List.not_mem_nil,
    or_false] at nothing
  rcases nothing with rfl | rfl | rfl | rfl | rfl <;> decide

theorem IsNatural.present {bound value : Nat}
    (converts : IsNatural document bound node value)
    (untagged : ∀ text, ¬ IsNullTagged document node text) :
    ¬ IsNoSeed document node := by
  obtain ⟨⟨_, _, _, resolved, -, spelled⟩, -⟩ := converts
  intro absent
  cases absent with
  | empty resolvedOther =>
      cases resolved.symm.trans resolvedOther
      rw [naturalOf?_eq_none_of_isNothing (by decide)] at spelled
      cases spelled
  | word resolvedOther null =>
      cases resolved.symm.trans resolvedOther
      rw [naturalOf?_eq_none_of_isNothing (by simp [isNothing, null])]
        at spelled
      cases spelled
  | tagged nullTagged => exact untagged _ nullTagged

variable (document outer)

theorem seed_reads :
    Reads (seed document outer) (IsSeed document)
      (SeedMisfit document outer) where
  accepts := by
    intro path node value converts
    cases converts with
    | nothing absent => exact seed_of_isNoSeed absent
    | given untagged converts =>
        rw [seed_of_present (converts.present untagged) untagged,
          (natural_reads document _ _).accepts converts]
        rfl
  reports := by
    intro path node error misfit
    cases misfit with
    | tagged nullTagged unlike =>
        obtain ⟨tag, resolved, ofNull⟩ := nullTagged
        simp [seed, resolved, ofNull, unlike, fail]
    | natural present untagged misfit =>
        rw [seed_of_present present untagged, (natural_reads document _ _).reports misfit]
        rfl
  total := by
    intro path node
    by_cases absent : IsNoSeed document node
    · exact .inl ⟨none, .nothing absent⟩
    by_cases tagged : ∃ text, IsNullTagged document node text
    · obtain ⟨text, nullTagged⟩ := tagged
      cases null : Yaml.isNullWord text with
      | true => exact absurd (.tagged nullTagged null) absent
      | false => exact .inr ⟨_, .tagged nullTagged null⟩
    have untagged := not_exists.mp tagged
    rcases (natural_reads document .word (twoTo 32)).total path node with
      ⟨value, converts⟩ | ⟨error, misfit⟩
    · exact .inl ⟨_, .given untagged converts⟩
    · exact .inr ⟨error, .natural absent untagged misfit⟩

end Seed

/-! ## Kinds -/

/-- A node is a scalar that names a kind. -/
def IsTypeName (node : Node) (type : SemanticType) : Prop :=
  ∃ style tag? text,
    document.resolve node = .scalar style tag? text ∧ type.NamedBy text

/--
What is wrong with an item that names no kind.  The error of an unknown name is
that of the list, that of an item which is no scalar tells its place.
-/
inductive TypeNameMisfit
    (path : List PathStep)
    (index : Nat)
    (node : Node) : DecodeError → Prop
  | unknown {style tag? text}
      (resolved : document.resolve node = .scalar style tag? text)
      (nameless : ∀ type : SemanticType, ¬ type.NamedBy text) :
      TypeNameMisfit path index node ⟨path, .unknownType ⟨text⟩⟩
  | mismatch {error}
      (unlike :
        ∀ style tag? text, document.resolve node ≠ .scalar style tag? text)
      (mismatch :
        Mismatch document (path ++ [.item index]) .typeName node error) :
      TypeNameMisfit path index node error

/-- A node is left empty, in place of a collection. -/
def IsLeftOut (node : Node) : Prop :=
  ∃ tag?, document.resolve node = .scalar .plain tag? ""

variable {document} in
theorem IsLeftOut.of_isEmpty
    {node : Node}
    {style : ScalarStyle}
    {tag? : Option Tag}
    {text : String}
    (resolved : document.resolve node = .scalar style tag? text)
    (empty : (decide (style = .plain) && text.isEmpty) = true) :
    IsLeftOut document node := by
  simp only [Bool.and_eq_true, decide_eq_true_eq, String.isEmpty_iff] at empty
  obtain ⟨rfl, rfl⟩ := empty
  exact ⟨tag?, resolved⟩

/-- A node is a list of names of kinds, or is left empty. -/
@[mk_iff]
inductive AreTypes (node : Node) : List SemanticType → Prop
  | listed {tag? items types}
      (resolved : document.resolve node = .sequence tag? items)
      (named : List.Forall₂ (IsTypeName document) items types) :
      AreTypes node types
  | nothing (leftOut : IsLeftOut document node) : AreTypes node []

/-- What is wrong with a node that is no list of names of kinds. -/
inductive TypesMisfit
    (path : List PathStep)
    (node : Node) : DecodeError → Prop
  /-- The first item that names no kind. -/
  | item {tag? before item after error}
      (resolved :
        document.resolve node = .sequence tag? (before ++ item :: after))
      (named : ∀ other ∈ before, ∃ type, IsTypeName document other type)
      (misfit : TypeNameMisfit document path before.length item error) :
      TypesMisfit path node error
  | mismatch {error}
      (present : ¬ IsLeftOut document node)
      (unlike : ∀ tag? items, document.resolve node ≠ .sequence tag? items)
      (mismatch : Mismatch document path .types node error) :
      TypesMisfit path node error

section Types

variable
    {document}
    {path : List PathStep}
    {node : Node}

theorem typeName_of_isTypeName {type : SemanticType}
    (named : IsTypeName document node type)
    (index : Nat) :
    typeName document path index node = .ok type := by
  obtain ⟨style, tag?, text, resolved, named⟩ := named
  simp only [typeName, resolved,
    SemanticType.ofName_eq_ok_iff_namedBy.mpr named]

theorem typeName_of_misfit {index : Nat} {error : DecodeError}
    (misfit : TypeNameMisfit document path index node error) :
    typeName document path index node = .error error := by
  cases misfit with
  | unknown resolved nameless =>
      simp only [typeName, resolved,
        SemanticType.ofName_eq_error_iff.mpr ⟨nameless, rfl⟩, fail]
  | mismatch unlike mismatch =>
      have unfits :
          unfit (path ++ [.item index]) .typeName (document.resolve node)
            = (.error error : Decoded SemanticType) :=
        unfit_of_mismatch mismatch
      unfold typeName
      split
      · next resolved => exact absurd resolved (unlike _ _ _)
      · exact unfits

theorem typeNames_of_forall₂
    {items : List Node}
    {types : List SemanticType}
    (named : List.Forall₂ (IsTypeName document) items types)
    (index : Nat) :
    typeNames document path index items = .ok types := by
  induction named generalizing index with
  | nil => rfl
  | cons first _ inductionHypothesis =>
      rw [typeNames, typeName_of_isTypeName first, bind_ok, inductionHypothesis]
      rfl

/-- The first item that names no kind ends the reading. -/
theorem typeNames_of_misfit
    {before after : List Node}
    {item : Node}
    {error : DecodeError}
    {index : Nat}
    (named : ∀ other ∈ before, ∃ type, IsTypeName document other type)
    (misfit :
      TypeNameMisfit document path (index + before.length) item error) :
    typeNames document path index (before ++ item :: after)
      = .error error := by
  induction before generalizing index with
  | nil =>
      have firstRefused :
          typeName document path index item = .error error :=
        typeName_of_misfit misfit
      rw [List.nil_append, typeNames, firstRefused, bind_error]
  | cons first others inductionHypothesis =>
      obtain ⟨type, firstNamed⟩ := named first List.mem_cons_self
      rw [List.length_cons, Nat.add_comm others.length, ← Nat.add_assoc]
        at misfit
      have othersRead :=
        inductionHypothesis
          (fun other member => named other (List.mem_cons_of_mem _ member))
          misfit
      rw [List.cons_append, typeNames, typeName_of_isTypeName firstNamed,
        bind_ok, othersRead]
      rfl

variable (document)

theorem isTypeName_or_misfit
    (path : List PathStep)
    (index : Nat)
    (node : Node) :
    (∃ type, IsTypeName document node type)
      ∨ ∃ error, TypeNameMisfit document path index node error := by
  by_cases scalar :
      ∃ style tag? text, document.resolve node = .scalar style tag? text
  · obtain ⟨style, tag?, text, resolved⟩ := scalar
    by_cases named : ∃ type : SemanticType, type.NamedBy text
    · obtain ⟨type, named⟩ := named
      exact .inl ⟨type, style, tag?, text, resolved, named⟩
    · exact .inr ⟨_, .unknown resolved (not_exists.mp named)⟩
  · obtain ⟨error, mismatch⟩ :=
      exists_mismatch document (path ++ [.item index]) .typeName node
    simp only [not_exists] at scalar
    exact .inr ⟨error, .mismatch scalar mismatch⟩

/-- Items all name kinds, or there is a first one that does not. -/
theorem forall₂_or_misfit
    (path : List PathStep)
    (index : Nat)
    (items : List Node) :
    (∃ types, List.Forall₂ (IsTypeName document) items types)
      ∨ ∃ before item after error,
        items = before ++ item :: after
          ∧ (∀ other ∈ before, ∃ type, IsTypeName document other type)
          ∧ TypeNameMisfit document path (index + before.length) item error := by
  induction items generalizing index with
  | nil => exact .inl ⟨[], .nil⟩
  | cons first others inductionHypothesis =>
      rcases isTypeName_or_misfit document path index first with
        ⟨type, firstNamed⟩ | ⟨error, misfit⟩
      · rcases inductionHypothesis (index + 1) with
          ⟨types, named⟩ | ⟨before, item, after, error, rfl, named, misfit⟩
        · exact .inl ⟨type :: types, .cons firstNamed named⟩
        · refine
            .inr ⟨first :: before, item, after, error, rfl, ?_, ?_⟩
          · exact List.forall_mem_cons.mpr ⟨⟨type, firstNamed⟩, named⟩
          · rw [List.length_cons, Nat.add_comm before.length, ← Nat.add_assoc]
            exact misfit
      · exact .inr ⟨[], first, others, error, rfl, by simp, misfit⟩

theorem types_reads :
    Reads (types document) (AreTypes document) (TypesMisfit document) where
  accepts := by
    intro path node value converts
    cases converts with
    | listed resolved named =>
        simp only [types, resolved]
        exact typeNames_of_forall₂ named 0
    | nothing leftOut =>
        obtain ⟨tag?, resolved⟩ := leftOut
        simp [types, resolved]
  reports := by
    intro path node error misfit
    cases misfit with
    | item resolved named misfit =>
        simp only [types, resolved]
        exact typeNames_of_misfit named (by rwa [Nat.zero_add])
    | mismatch present unlike mismatch =>
        have unfits :
            unfit path .types (document.resolve node)
              = (.error error : Decoded (List SemanticType)) :=
          unfit_of_mismatch mismatch
        unfold types
        split
        · next resolved => exact absurd resolved (unlike _ _)
        · next style tag? text resolved =>
            rw [← resolved, unfits]
            split
            · next empty => exact absurd (.of_isEmpty resolved empty) present
            · rfl
        · exact unfits
  total := by
    intro path node
    by_cases leftOut : IsLeftOut document node
    · exact .inl ⟨[], .nothing leftOut⟩
    by_cases listed :
        ∃ tag? items, document.resolve node = .sequence tag? items
    · obtain ⟨tag?, items, resolved⟩ := listed
      rcases forall₂_or_misfit document path 0 items with
        ⟨types, named⟩ | ⟨before, item, after, error, rfl, named, misfit⟩
      · exact .inl ⟨types, .listed resolved named⟩
      · rw [Nat.zero_add] at misfit
        exact .inr ⟨error, .item resolved named misfit⟩
    · obtain ⟨error, mismatch⟩ := exists_mismatch document path .types node
      simp only [not_exists] at listed
      exact .inr ⟨error, .mismatch leftOut listed mismatch⟩

end Types

/-! ## Mappings -/

/-- A node is a mapping with some entries, or is left empty. -/
@[mk_iff]
inductive HoldsEntries (node : Node) : List (Node × Node) → Prop
  | mapping {tag? entries}
      (resolved : document.resolve node = .mapping tag? entries) :
      HoldsEntries node entries
  | nothing (leftOut : IsLeftOut document node) : HoldsEntries node []

/-- What is wrong with a node that is no mapping. -/
structure EntriesMisfit
    (wanted : Wanted)
    (path : List PathStep)
    (node : Node)
    (error : DecodeError) : Prop where
  unlike : ∀ entries, ¬ HoldsEntries document node entries
  mismatch : Mismatch document path wanted node error

theorem entries_reads (wanted : Wanted) :
    Reads (fun path => entries document path wanted) (HoldsEntries document)
      (EntriesMisfit document wanted) where
  accepts := by
    intro path node value converts
    cases converts with
    | mapping resolved => simp only [entries, resolved]
    | nothing leftOut =>
        obtain ⟨tag?, resolved⟩ := leftOut
        simp [entries, resolved]
  reports := by
    intro path node error misfit
    have unfits :
        unfit path wanted (document.resolve node)
          = (.error error : Decoded (List (Node × Node))) :=
      unfit_of_mismatch misfit.mismatch
    simp only [entries]
    split
    · next resolved => exact absurd (.mapping resolved) (misfit.unlike _)
    · next style tag? text resolved =>
        rw [← resolved, unfits]
        split
        · next empty =>
            exact absurd (.nothing (.of_isEmpty resolved empty)) (misfit.unlike _)
        · rfl
    · exact unfits
  total := by
    intro path node
    by_cases held : ∃ entries, HoldsEntries document node entries
    · exact .inl held
    · obtain ⟨error, mismatch⟩ := exists_mismatch document path wanted node
      exact .inr ⟨error, not_exists.mp held, mismatch⟩

end Kinds

end Decode

end SyntheticTable
