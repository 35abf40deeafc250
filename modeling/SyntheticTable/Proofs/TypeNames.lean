import Mathlib.Data.List.Basic
import Mathlib.Data.List.TakeWhile
import SyntheticTable.SemanticType

/-!
# Names of kinds

A text names a kind if between blanks it has a spelling of the kind, in letters
of either case.  What stands between the blanks is unique, the spellings of two
kinds differ, and none of them has a blank in it.  So a text names at most one
kind, which is the one that is read; and a text that names no kind is refused
as it was given.
-/

namespace SyntheticTable

namespace Text

/-! ## Blanks at the ends -/

/-- Characters that are all blank. -/
def AllBlank (characters : List Char) : Prop :=
  ∀ character ∈ characters, isBlank character = true

instance (characters : List Char) : Decidable (AllBlank characters) :=
  List.decidableBAll (fun character => isBlank character = true) characters

/-- Characters without a blank at either end. -/
structure Bare (characters : List Char) : Prop where
  first :
    ∀ character, characters.head? = some character → isBlank character = false
  last :
    ∀ character, characters.getLast? = some character → isBlank character = false

variable {before core after characters : List Char}

/-- Blanks in front are dropped up to the first character that is none. -/
theorem dropWhile_isBlank_append
    (blank : AllBlank before)
    (stops :
      ∀ character, core.head? = some character → isBlank character = false) :
    (before ++ core).dropWhile isBlank = core := by
  rw [List.dropWhile_append_of_pos blank]
  cases core with
  | nil => rfl
  | cons character others =>
      exact List.dropWhile_cons_of_neg (by simp [stops character rfl])

/-- The blanks around characters are all that is removed. -/
theorem trimBlanks_append
    (blankBefore : AllBlank before)
    (blankAfter : AllBlank after)
    (bare : Bare core) :
    trimBlanks (before ++ core ++ after) = core := by
  rw [trimBlanks, List.append_assoc]
  cases core with
  | nil =>
      have nothing : (before ++ ([] ++ after)).dropWhile isBlank = [] := by
        rw [List.dropWhile_append_of_pos blankBefore]
        exact List.dropWhile_eq_nil_iff.2 blankAfter
      rw [nothing]
      rfl
  | cons character others =>
      have front :
          (before ++ (character :: others ++ after)).dropWhile isBlank =
            character :: others ++ after :=
        dropWhile_isBlank_append blankBefore bare.first
      have back :
          (after.reverse ++ (character :: others).reverse).dropWhile isBlank =
            (character :: others).reverse := by
        refine dropWhile_isBlank_append ?_ ?_
        · intro blank member
          exact blankAfter blank (List.mem_reverse.1 member)
        · intro last found
          exact bare.last last (List.head?_reverse.symm.trans found)
      rw [front, List.reverse_append, back, List.reverse_reverse]

/-- What is left of characters is bare, and what was around it is blank. -/
theorem exists_blanks_around (characters : List Char) :
    ∃ before after,
      AllBlank before ∧
        AllBlank after ∧
          characters = before ++ trimBlanks characters ++ after ∧
            Bare (trimBlanks characters) := by
  have frontParts :
      characters.takeWhile isBlank ++ characters.dropWhile isBlank = characters :=
    List.takeWhile_append_dropWhile
  have backParts :
      trimBlanks characters ++
          ((characters.dropWhile isBlank).reverse.takeWhile isBlank).reverse =
        characters.dropWhile isBlank := by
    rw [trimBlanks, ← List.reverse_append, List.takeWhile_append_dropWhile,
      List.reverse_reverse]
  refine
    ⟨characters.takeWhile isBlank,
      ((characters.dropWhile isBlank).reverse.takeWhile isBlank).reverse,
      fun _ member => List.mem_takeWhile_imp member,
      fun _ member => List.mem_takeWhile_imp (List.mem_reverse.1 member), ?_, ?_, ?_⟩
  · rw [List.append_assoc, backParts, frontParts]
  · intro character found
    have stops := List.head?_dropWhile_not isBlank characters
    rw [← backParts, List.head?_append, found] at stops
    exact stops
  · intro character found
    have stops :=
      List.head?_dropWhile_not isBlank (characters.dropWhile isBlank).reverse
    rw [trimBlanks, List.getLast?_reverse] at found
    rw [found] at stops
    exact stops

theorem toLower_of_isBlank
    {character : Char}
    (blank : isBlank character = true) :
    character.toLower = character := by
  have noLetter : ¬ (character.val ≥ 'A'.val ∧ character.val ≤ 'Z'.val) := by
    rintro ⟨fromA, toZ⟩
    have low : 65 ≤ character.toNat := fromA
    have high : character.toNat ≤ 90 := toZ
    simp only [isBlank, blankRanges, List.any_cons, List.any_nil,
      Bool.or_eq_true, Bool.and_eq_true, decide_eq_true_eq, Bool.false_eq_true,
      or_false] at blank
    omega
  exact dif_neg noLetter

end Text

/-! ## Spellings -/

namespace SemanticType

/-- The spellings of a kind: its name, and `boolean` for truth values. -/
inductive Spelling : SemanticType → String → Prop where
  | name (type : SemanticType) : Spelling type type.name
  | boolean : Spelling (.fixed .bool) "boolean"

/--
A text names a kind: once the blanks at its ends are removed, it is a spelling
of the kind with its ASCII letters in either case.
-/
def NamedBy (type : SemanticType) (text : String) : Prop :=
  ∃ before word after,
    text.toList = before ++ word ++ after ∧
      Text.AllBlank before ∧
        Text.AllBlank after ∧
          Text.Bare word ∧
            type.Spelling (String.ofList (word.map Char.toLower))

variable
    {type : SemanticType}
    {text : String}

theorem notBlank_of_mem_name
    {character : Char}
    (member : character ∈ type.name.toList) :
    Text.isBlank character = false := by
  have known :
      ∀ type ∈ all, (type.name.toList.any Text.isBlank) = false := by
    decide +kernel
  exact Bool.eq_false_iff.2 (List.any_eq_false.1 (known type type.mem_all) _ member)

theorem map_toLower_name (type : SemanticType) :
    type.name.toList.map Char.toLower = type.name.toList := by
  have known :
      ∀ type ∈ all, type.name.toList.map Char.toLower = type.name.toList := by
    decide +kernel
  exact known type type.mem_all

end SemanticType

/-! ## Reading a spelling -/

theorem Text.withoutStem?_eq_some_iff {stem text suffix : String} :
    withoutStem? stem text = some suffix ↔ text = stem ++ suffix := by
  rw [withoutStem?, Option.map_eq_some_iff]
  constructor
  · rintro ⟨rest, found, rfl⟩
    rw [List.isPrefixOf?_eq_some_iff_append_eq] at found
    rw [← String.toList_inj, String.toList_append, String.toList_ofList, found]
  · rintro rfl
    refine ⟨suffix.toList, ?_, String.ofList_toList⟩
    rw [List.isPrefixOf?_eq_some_iff_append_eq, String.toList_append]

theorem TimeUnit.ofSuffix?_eq_some_iff {suffix : String} {unit : TimeUnit} :
    ofSuffix? suffix = some unit ↔ suffix = unit.suffix := by
  constructor
  · intro found
    unfold ofSuffix? at found
    split at found <;> cases found <;> rfl
  · rintro rfl
    cases unit <;> rfl

namespace SemanticType

variable
    {type : SemanticType}
    {text : String}

/-- A text is read as a kind that it spells, or refused as it was given. -/
theorem ofName_cases (text : String) :
    (∃ type, ofName text = .ok type ∧ type.Spelling (Text.folded text)) ∨
      ofName text = .error ⟨text⟩ := by
  unfold ofName
  generalize Text.folded text = word
  split
  all_goals try exact .inl ⟨_, rfl, .name _⟩
  · exact .inl ⟨_, rfl, .boolean⟩
  split
  · next suffix stem =>
      split
      · next unit found =>
          rw [Text.withoutStem?_eq_some_iff.1 stem,
            TimeUnit.ofSuffix?_eq_some_iff.1 found]
          exact .inl ⟨_, rfl, .name (.fixed (.timestamp unit))⟩
      · exact .inr rfl
  split
  · next suffix stem =>
      split
      · next unit found =>
          rw [Text.withoutStem?_eq_some_iff.1 stem,
            TimeUnit.ofSuffix?_eq_some_iff.1 found]
          exact .inl ⟨_, rfl, .name (.fixed (.duration unit))⟩
      · exact .inr rfl
  · exact .inr rfl

theorem spelling_of_ofName (read : ofName text = .ok type) :
    type.Spelling (Text.folded text) := by
  rcases ofName_cases text with ⟨other, readOther, spelling⟩ | refused
  · cases read.symm.trans readOther
    exact spelling
  · cases read.symm.trans refused

theorem ofName_of_spelling (spelling : type.Spelling (Text.folded text)) :
    ofName text = .ok type := by
  unfold ofName
  generalize Text.folded text = word at spelling
  cases spelling with
  | boolean => rfl
  | name =>
      cases type with
      | fixed type =>
          cases type with
          | timestamp unit => cases unit <;> rfl
          | duration unit => cases unit <;> rfl
          | _ => rfl
      | _ => rfl

/-- What is read is a kind with the folded text as a spelling. -/
theorem ofName_eq_ok_iff :
    ofName text = .ok type ↔ type.Spelling (Text.folded text) :=
  ⟨spelling_of_ofName, ofName_of_spelling⟩

/-- A refusal reports the text as it was given. -/
theorem ofName_eq_error
    {error : UnknownType}
    (refused : ofName text = .error error) :
    error = ⟨text⟩ := by
  rcases ofName_cases text with ⟨type, read, -⟩ | refusal
  · cases refused.symm.trans read
  · cases refused.symm.trans refusal
    rfl

/-- A text names a kind if, folded, it is a spelling of the kind. -/
theorem namedBy_iff :
    type.NamedBy text ↔ type.Spelling (Text.folded text) := by
  constructor
  · rintro ⟨before, word, after, parts, blankBefore, blankAfter, bare, spelling⟩
    rw [Text.folded, parts, Text.trimBlanks_append blankBefore blankAfter bare]
    exact spelling
  · intro spelling
    rcases Text.exists_blanks_around text.toList with
      ⟨before, after, blankBefore, blankAfter, parts, bare⟩
    exact ⟨before, _, after, parts, blankBefore, blankAfter, bare, spelling⟩

theorem ofName_eq_ok_iff_namedBy :
    ofName text = .ok type ↔ type.NamedBy text := by
  rw [ofName_eq_ok_iff, namedBy_iff]

/-- A text is refused if it names no kind, and reported as it was given. -/
theorem ofName_eq_error_iff {error : UnknownType} :
    ofName text = .error error ↔
      (∀ type : SemanticType, ¬ type.NamedBy text) ∧ error = ⟨text⟩ := by
  constructor
  · intro refused
    refine ⟨fun type named => ?_, ofName_eq_error refused⟩
    cases refused.symm.trans (ofName_eq_ok_iff_namedBy.2 named)
  · rintro ⟨nameless, rfl⟩
    cases outcome : ofName text with
    | ok type => exact (nameless type (ofName_eq_ok_iff_namedBy.1 outcome)).elim
    | error error => rw [ofName_eq_error outcome]

theorem bare_of_map_toLower
    {word : List Char}
    (sameLetters : word.map Char.toLower = type.name.toList) :
    Text.Bare word := by
  have notBlank : ∀ character ∈ word, Text.isBlank character = false := by
    intro character member
    apply Bool.eq_false_iff.2
    intro blank
    have kept := List.mem_map_of_mem (f := Char.toLower) member
    rw [sameLetters, Text.toLower_of_isBlank blank] at kept
    rw [notBlank_of_mem_name kept] at blank
    cases blank
  constructor
  · intro character found
    exact notBlank character (List.mem_of_mem_head? found)
  · intro character found
    exact notBlank character (List.mem_of_getLast? found)

theorem ofName_name (type : SemanticType) : ofName type.name = .ok type := by
  have folded : Text.folded type.name = type.name := by
    have trimmed :=
      Text.trimBlanks_append (by nofun : Text.AllBlank [])
        (by nofun : Text.AllBlank []) (bare_of_map_toLower type.map_toLower_name)
    rw [List.nil_append, List.append_nil] at trimmed
    rw [Text.folded, trimmed, type.map_toLower_name, String.ofList_toList]
  rw [ofName_eq_ok_iff, folded]
  exact .name type

/--
A text is read as the one kind that it names.  If it names none, it is refused
and reported as it was given.  So every kind is read from its name, in letters
of either case and between any blanks.
-/
theorem names_are_read :
    (∀ text type, ofName text = .ok type ↔ type.NamedBy text) ∧
      (∀ text error,
        ofName text = .error error ↔
          (∀ type : SemanticType, ¬ type.NamedBy text) ∧ error = ⟨text⟩) ∧
        ∀ type before word after,
          Text.AllBlank before →
            Text.AllBlank after →
              word.map Char.toLower = type.name.toList →
                ofName (String.ofList (before ++ word ++ after)) = .ok type := by
  refine
    ⟨fun _ _ => ofName_eq_ok_iff_namedBy, fun _ _ => ofName_eq_error_iff, ?_⟩
  intro type before word after blankBefore blankAfter sameLetters
  refine ofName_eq_ok_iff_namedBy.2
    ⟨before, word, after, String.toList_ofList, blankBefore, blankAfter,
      bare_of_map_toLower sameLetters, ?_⟩
  rw [sameLetters, String.ofList_toList]
  exact .name type

/-- A name between a tabulator and a wide blank, in mixed letters. -/
theorem names_are_read_mixed :
    ofName "\tTimestamp_MS\u3000" = .ok (.fixed (.timestamp .milliseconds)) := by
  exact
    names_are_read.2.2 (.fixed (.timestamp .milliseconds)) ['\t']
      "Timestamp_MS".toList ['\u3000'] (by decide) (by decide) (by decide)

/-- A letter beyond ASCII has no other case, so the long s does not stand for s. -/
example : ofName "\u017Ftruct" = .error ⟨"\u017Ftruct"⟩ := by decide +kernel

end SemanticType

end SyntheticTable
