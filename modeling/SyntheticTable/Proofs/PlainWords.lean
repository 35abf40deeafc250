import SyntheticTable.Yaml.Scalar

/-!
# Words that are read as plain scalars

A word of letters, digits, points, dashes and underscores is read as one plain
scalar.  What follows it decides where the scan goes on: before the colon of a
key, or after a line break and the indentation of the next line, when that is
less than what the scalar would need to continue.
-/

namespace SyntheticTable.Yaml

/-! ## Characters -/

/-- A character that may stand anywhere in a word. -/
def isWordCharacter (character : Char) : Bool :=
  isNameCharacter character || character = '.'

section

variable {character : Char}

theorem toNat_of_isWordCharacter
    (inWord : isWordCharacter character = true) :
    0x2D ≤ character.toNat ∧ character.toNat ≤ 0x7A := by
  simp only [isWordCharacter, isNameCharacter, Bool.or_eq_true,
    decide_eq_true_eq] at inWord
  rcases inWord with ((alphanumeric | rfl) | rfl) | rfl
  · have classes :
        ((character.isUpper || character.isLower) || character.isDigit) =
          true :=
      alphanumeric
    simp only [Bool.or_eq_true] at classes
    rcases classes with (upper | lower) | digit
    · have bounds : 65 ≤ character.toNat ∧ character.toNat ≤ 90 :=
        of_decide_eq_true upper
      omega
    · obtain ⟨low, high⟩ := Bool.and_eq_true_iff.mp lower
      have bounds : 97 ≤ character.toNat ∧ character.toNat ≤ 122 :=
        ⟨of_decide_eq_true low, of_decide_eq_true high⟩
      omega
    · have bounds : 48 ≤ character.toNat ∧ character.toNat ≤ 57 :=
        Char.isDigit_iff_toNat.mp digit
      omega
  all_goals decide

/-- A character of a word differs from any that stands in no word. -/
theorem ne_of_isWordCharacter
    (inWord : isWordCharacter character = true)
    (other : Char)
    (outside : isWordCharacter other = false) :
    character ≠ other := by
  rintro rfl
  rw [inWord] at outside
  cases outside

theorem isSpace_of_isWordCharacter
    (inWord : isWordCharacter character = true) :
    isSpace character = false := by
  have bounds := toNat_of_isWordCharacter inWord
  have notBlank := ne_of_isWordCharacter inWord ' ' (by decide)
  have notTab := ne_of_isWordCharacter inWord '\t' (by decide)
  have notFeed := ne_of_isWordCharacter inWord '\n' (by decide)
  have notReturn := ne_of_isWordCharacter inWord '\r' (by decide)
  simp [isSpace, isGap, isBreak, notBlank, notTab, notFeed, notReturn]
  omega

theorem isAllowed_of_isWordCharacter
    (inWord : isWordCharacter character = true) :
    isAllowed character = true := by
  have bounds := toNat_of_isWordCharacter inWord
  simp [isAllowed]
  omega

end

/-! ## Places -/

/-- The place after so many characters of one byte on the same line. -/
def Place.across (place : Place) (count : Nat) : Place :=
  { place with
    column := place.column + count
    index := place.index + count }

/-- The place after a line feed. -/
def Place.nextLine (place : Place) : Place where
  line := place.line + 1
  column := 0
  index := place.index + 1

section

variable (place : Place)

@[simp]
theorem Place.across_line (count : Nat) :
    (place.across count).line = place.line := rfl

@[simp]
theorem Place.across_column (count : Nat) :
    (place.across count).column = place.column + count := rfl

@[simp]
theorem Place.across_index (count : Nat) :
    (place.across count).index = place.index + count := rfl

@[simp]
theorem Place.nextLine_line : place.nextLine.line = place.line + 1 := rfl

@[simp]
theorem Place.nextLine_column : place.nextLine.column = 0 := rfl

theorem Place.across_across (first second : Nat) :
    (place.across first).across second = place.across (first + second) := by
  simp [Place.across, Nat.add_assoc]

@[simp]
theorem Place.next_feed : place.next '\n' = place.nextLine := rfl

@[simp]
theorem Place.next_blank : place.next ' ' = place.across 1 := rfl

/-- Characters that take one byte and do not end the line. -/
def OneByteEach (characters : List Char) : Prop :=
  ∀ character ∈ characters,
    isBreak character = false ∧ character.utf8Size = 1

theorem Place.foldl_next
    {characters : List Char}
    (oneByte : OneByteEach characters) :
    characters.foldl Place.next place = place.across characters.length := by
  induction characters generalizing place with
  | nil => rfl
  | cons first rest inductionHypothesis =>
      obtain ⟨sameLine, size⟩ := oneByte first List.mem_cons_self
      have step : place.next first = place.across 1 := by
        simp [Place.next, Place.across, sameLine, size]
      rw [List.foldl_cons, step,
        inductionHypothesis _ fun character member =>
          oneByte character (List.mem_cons_of_mem _ member),
        Place.across_across, List.length_cons, Nat.add_comm]

end

namespace Cursor

/-- Reading past a word moves across it. -/
theorem skip_length
    (place : Place)
    {word : List Char}
    (oneByte : OneByteEach word)
    (rest : List Char) :
    (Cursor.mk place (word ++ rest)).skip word.length =
      ⟨place.across word.length, rest⟩ := by
  simp [Cursor.skip, place.foldl_next oneByte]

theorem moveTo_append
    (place : Place)
    (gap rest : List Char) :
    (Cursor.mk place (gap ++ rest)).moveTo rest =
      ⟨gap.foldl Place.next place, rest⟩ := by
  simp [Cursor.moveTo, Cursor.skip]

/-- No document starts or ends within a line. -/
theorem atDocumentMarker_of_column
    {cursor : Cursor}
    (within : cursor.column ≠ 0) :
    cursor.atDocumentMarker = false := by
  simp [Cursor.atDocumentMarker, Cursor.atMarker, within]

/-- No document starts or ends at a letter. -/
theorem atDocumentMarker_of_head
    (place : Place)
    {first : Char}
    (notDash : first ≠ '-')
    (notPoint : first ≠ '.')
    (rest : List Char) :
    (Cursor.mk place (first :: rest)).atDocumentMarker = false := by
  simp [Cursor.atDocumentMarker, Cursor.atMarker, notDash, notPoint]

end Cursor

/-! ## Words -/

/-- A word that is read as a plain scalar. -/
structure IsWord (word : List Char) : Prop where
  characters : ∀ character ∈ word, isWordCharacter character = true
  notEmpty : word ≠ []
  /-- A dash alone is the mark of a sequence. -/
  notDash : word ≠ ['-']

instance : DecidablePred IsWord := fun word =>
  decidable_of_iff
    (word.all isWordCharacter = true ∧ word ≠ [] ∧ word ≠ ['-'])
    ⟨fun ⟨characters, notEmpty, notDash⟩ =>
      ⟨List.all_eq_true.mp characters, notEmpty, notDash⟩,
    fun isWord =>
      ⟨List.all_eq_true.mpr isWord.characters, isWord.notEmpty,
        isWord.notDash⟩⟩

namespace IsWord

variable {word : List Char}

theorem oneByteEach (isWord : IsWord word) : OneByteEach word := by
  intro character member
  have inWord := isWord.characters character member
  constructor
  · have notSpace := isSpace_of_isWordCharacter inWord
    simp only [isSpace, Bool.or_eq_false_iff] at notSpace
    exact notSpace.2
  · have bounds := toNat_of_isWordCharacter inWord
    rw [Char.utf8Size_eq_one_iff]
    exact UInt32.le_iff_toNat_le.mpr (Nat.le_trans bounds.2 (by decide))

end IsWord

/-! ## Scalars -/

/-- What may follow a word: nothing, a gap, or the colon of a key. -/
def EndsPlain : List Char → Prop
  | [] => True
  | character :: rest =>
      isSpace character = true ∨ character = ':' ∧ endsWord rest = true

/-- Whether a character is passed over between tokens where it stands. -/
def isPassedOver (character : Char) : Bool :=
  isSpace character || character = '#' || character = '\uFEFF'

/-- Nothing, or the first character of a token, comes next. -/
def StartsToken (rest : List Char) : Prop :=
  rest.head?.all (!isPassedOver ·) = true

theorem startsToken_cons
    {first : Char}
    {rest : List Char}
    (starts : StartsToken (first :: rest)) :
    isSpace first = false ∧ first ≠ '#' ∧ first ≠ '\uFEFF' := by
  simpa [StartsToken, isPassedOver, and_assoc] using starts

theorem startsToken_append
    {word : List Char}
    (isWord : IsWord word)
    (rest : List Char) :
    StartsToken (word ++ rest) := by
  obtain ⟨first, others, rfl⟩ := List.exists_cons_of_ne_nil isWord.notEmpty
  have inWord := isWord.characters first List.mem_cons_self
  have notComment := ne_of_isWordCharacter inWord '#' (by decide)
  have notMark := ne_of_isWordCharacter inWord '\uFEFF' (by decide)
  simp [StartsToken, isPassedOver, isSpace_of_isWordCharacter inWord,
    notComment, notMark]

theorem plainWord_append
    {word rest : List Char}
    (characters : ∀ character ∈ word, isWordCharacter character = true)
    (ends : EndsPlain rest) :
    plainWord false (word ++ rest) = some (word, rest) := by
  induction word with
  | nil =>
      cases rest with
      | nil => rfl
      | cons first rest =>
          rcases ends with space | ⟨rfl, endsHere⟩
          · simp [plainWord, space]
          · simp [plainWord, endsHere, show isSpace ':' = false from rfl]
  | cons first word inductionHypothesis =>
      have inWord := characters first List.mem_cons_self
      have notColon := ne_of_isWordCharacter inWord ':' (by decide)
      have others :=
        inductionHypothesis fun character member =>
          characters character (List.mem_cons_of_mem _ member)
      simp [plainWord, isSpace_of_isWordCharacter inWord, notColon, others]

/-- A gap is split off before the first character that is none. -/
theorem splitSpace_append
    {gap rest : List Char}
    (spaces : ∀ character ∈ gap, isSpace character = true)
    (starts : StartsToken rest) :
    splitSpace (gap ++ rest) = (gap, rest) := by
  rw [splitSpace, List.takeWhile_append_of_pos spaces,
    List.dropWhile_append_of_pos spaces]
  cases rest with
  | nil => simp
  | cons first rest =>
      simp [(startsToken_cons starts).1]

/-- The indentation of a line by so many columns. -/
def blanks (count : Nat) : List Char :=
  List.replicate count ' '

theorem oneByteEach_blanks (count : Nat) : OneByteEach (blanks count) := by
  intro character member
  rw [List.eq_of_mem_replicate member]
  exact ⟨by decide, by decide⟩

theorem isSpace_of_mem_blanks {count : Nat} :
    ∀ character ∈ blanks count, isSpace character = true := by
  intro character member
  rw [List.eq_of_mem_replicate member]
  rfl

theorem foldl_next_blanks (place : Place) (count : Nat) :
    (blanks count).foldl Place.next place = place.across count := by
  rw [place.foldl_next (oneByteEach_blanks count), blanks,
    List.length_replicate]

theorem hasTabIndent_blanks
    (indent : Int)
    (lineEnded : Bool)
    (column count : Nat) :
    hasTabIndent indent lineEnded column (blanks count) = false := by
  induction count generalizing column with
  | zero => rfl
  | succ count inductionHypothesis =>
      have notBreak : isBreak ' ' = false := by decide
      simp only [blanks, List.replicate_succ, hasTabIndent, notBreak]
      simpa [blanks] using inductionHypothesis (column + 1)

section

variable {word : List Char} {place : Place} (indent : Int)

/--
A word is the whole scalar if nothing marks a document in its place and the
next word lies in a line that is indented less.
-/
theorem scanPlain_word
    (isWord : IsWord word)
    (gap : List Char)
    {rest : List Char}
    (noMarker :
      (Cursor.mk place (word ++ (gap ++ rest))).atDocumentMarker = false)
    (ends : EndsPlain (gap ++ rest))
    (spaces : ∀ character ∈ gap, isSpace character = true)
    (starts : StartsToken rest)
    (closes :
      gap = []
        ∨ hasTabIndent indent false (place.column + word.length) gap = false
          ∧ ((gap.foldl Place.next (place.across word.length)).column : Int)
            < indent) :
    scanPlain false indent ⟨place, word ++ (gap ++ rest)⟩ =
      some
        { text := word
          cursor := ⟨gap.foldl Place.next (place.across word.length), rest⟩
          lineEnded := gap.any isBreak } := by
  obtain ⟨first, others, rfl⟩ := List.exists_cons_of_ne_nil isWord.notEmpty
  have inWord := isWord.characters first List.mem_cons_self
  have notComment := ne_of_isWordCharacter inWord '#' (by decide)
  have noComment :
      ((first :: others) ++ (gap ++ rest)).head? ≠ some '#' := by
    simpa using notComment
  have split := plainWord_append isWord.characters ends
  have skipped := Cursor.skip_length place isWord.oneByteEach (gap ++ rest)
  rw [scanPlain,
    show (Cursor.mk place ((first :: others) ++ (gap ++ rest))).rest.length =
      (others ++ (gap ++ rest)).length + 1 from rfl, plainFrom]
  simp only [noMarker, noComment, split, splitSpace_append spaces starts,
    skipped, Cursor.moveTo_append]
  rcases closes with rfl | ⟨noTab, less⟩
  · simp [foldedGap, breaksOf]
  · simp only [List.length_cons] at noTab less
    simp [foldedGap, breaksOf, Cursor.column, noTab, less]

/-- A key is read up to its colon. -/
theorem scanPlain_key
    (isWord : IsWord word)
    {rest : List Char}
    (noMarker :
      (Cursor.mk place (word ++ ':' :: rest)).atDocumentMarker = false)
    (ends : endsWord rest = true) :
    scanPlain false indent ⟨place, word ++ ':' :: rest⟩ =
      some ⟨word, ⟨place.across word.length, ':' :: rest⟩, false⟩ :=
  scanPlain_word indent isWord [] noMarker (.inr ⟨rfl, ends⟩) (by simp) rfl
    (.inl rfl)

/-- A value is read up to the first character of the next line. -/
theorem scanPlain_value
    (isWord : IsWord word)
    {rest : List Char}
    {count : Nat}
    (noMarker :
      (Cursor.mk place (word ++ ('\n' :: blanks count ++ rest))).atDocumentMarker
        = false)
    (starts : StartsToken rest)
    (less : (count : Int) < indent) :
    scanPlain false indent ⟨place, word ++ ('\n' :: blanks count ++ rest)⟩ =
      some
        { text := word
          cursor := ⟨(place.across word.length).nextLine.across count, rest⟩
          lineEnded := true } := by
  have spaces :
      ∀ character ∈ '\n' :: blanks count, isSpace character = true := by
    intro character member
    rcases List.mem_cons.mp member with rfl | blank
    · rfl
    · exact isSpace_of_mem_blanks character blank
  have noTab :
      hasTabIndent indent false (place.column + word.length)
        ('\n' :: blanks count) = false := by
    rw [hasTabIndent, if_pos (by decide)]
    exact hasTabIndent_blanks indent true 0 count
  have reached :
      ('\n' :: blanks count).foldl Place.next (place.across word.length) =
        (place.across word.length).nextLine.across count := by
    rw [List.foldl_cons, Place.next_feed, foldl_next_blanks]
  have scanned :=
    scanPlain_word indent isWord ('\n' :: blanks count) noMarker (.inl rfl)
      spaces starts (.inr ⟨noTab, by rw [reached]; simpa using less⟩)
  rw [scanned, reached]
  rfl

end

end SyntheticTable.Yaml
