import SyntheticTable.Proofs.PlainWords
import SyntheticTable.Yaml.Node

/-!
# Words in blocks

The lines in which words are written as the entries of a sequence or as the
fields of a mapping, with the tokens and the nodes that they stand for.  Every
line ends with a line break and the indentation of the next one, because a word
is only known to be complete when the next line starts.
-/

namespace SyntheticTable.Yaml

/-- The token of a word. -/
def wordToken (word : List Char) : Token :=
  .scalar .plain word

/-- The node of a word. -/
def wordNode (word : List Char) : Node :=
  .scalar .plain none (String.ofList word)

/-! ## Entries of a sequence -/

/-- The lines of the entries of a sequence of words. -/
def entryLines (column : Nat) (rest : List Char) : List (List Char) → List Char
  | [] => rest
  | word :: words =>
      '-' :: ' ' ::
        (word ++ ('\n' :: blanks column ++ entryLines column rest words))

/-- The tokens of the entries of a sequence of words. -/
def entryTokens (words : List (List Char)) : List Token :=
  words.flatMap fun word => [.blockEntry, wordToken word]

@[simp]
theorem length_entryTokens (words : List (List Char)) :
    (entryTokens words).length = 2 * words.length := by
  induction words with
  | nil => rfl
  | cons word words inductionHypothesis =>
      simp only [entryTokens] at inductionHypothesis
      simp only [entryTokens, List.flatMap_cons, List.length_append,
        List.length_cons, List.length_nil, inductionHypothesis]
      omega

theorem startsToken_entryLines
    {rest : List Char}
    (starts : StartsToken rest)
    (column : Nat)
    (words : List (List Char)) :
    StartsToken (entryLines column rest words) := by
  cases words with
  | nil => exact starts
  | cons word words => rfl

/-! ## Fields of a mapping -/

/-- A word that is read as a key if a colon follows it. -/
structure IsKey (key : List Char) : Prop where
  isWord : IsWord key
  short : key.length ≤ 1024
  /-- So no document starts or ends at the key. -/
  letter : key.head? ≠ some '-' ∧ key.head? ≠ some '.'

instance : DecidablePred IsKey := fun key =>
  decidable_of_iff
    (IsWord key ∧ key.length ≤ 1024
      ∧ key.head? ≠ some '-' ∧ key.head? ≠ some '.')
    ⟨fun ⟨isWord, short, letter⟩ => ⟨isWord, short, letter⟩,
    fun isKey => ⟨isKey.isWord, isKey.short, isKey.letter⟩⟩

/-- A key and a value, each of one word. -/
structure Field where
  key : List Char
  value : List Char

/-- A field that can be read back. -/
structure Field.IsReadable (field : Field) : Prop where
  key : IsKey field.key
  value : IsWord field.value

/-- The line of a field, and the indentation of the next line. -/
def Field.line (field : Field) (next : Nat) (rest : List Char) : List Char :=
  field.key
    ++ ':' :: ' ' :: (field.value ++ ('\n' :: blanks next ++ rest))

/-- A field, and others below it. -/
def fieldLines
    (column next : Nat)
    (rest : List Char) :
    Field → List Field → List Char
  | field, [] => field.line next rest
  | field, second :: others =>
      field.line column (fieldLines column next rest second others)

/-- The tokens of fields in a mapping that has started. -/
def fieldTokens (fields : List Field) : List Token :=
  fields.flatMap fun field =>
    [.key, wordToken field.key, .value, wordToken field.value]

@[simp]
theorem length_fieldTokens (fields : List Field) :
    (fieldTokens fields).length = 4 * fields.length := by
  induction fields with
  | nil => rfl
  | cons field fields inductionHypothesis =>
      simp only [fieldTokens] at inductionHypothesis
      simp only [fieldTokens, List.flatMap_cons, List.length_append,
        List.length_cons, List.length_nil, inductionHypothesis]
      omega

/-- The keys and values of fields. -/
def fieldNodes (fields : List Field) : List (Node × Node) :=
  fields.map fun field => (wordNode field.key, wordNode field.value)

theorem startsToken_fieldLines
    {field : Field}
    (readable : field.IsReadable)
    (column next : Nat)
    (rest : List Char)
    (others : List Field) :
    StartsToken (fieldLines column next rest field others) := by
  cases others <;> exact startsToken_append readable.key.isWord _

/-! ## Characters -/

theorem all_isAllowed_word
    {word : List Char}
    (isWord : IsWord word) :
    word.all isAllowed = true := by
  rw [List.all_eq_true]
  exact fun character member =>
    isAllowed_of_isWordCharacter (isWord.characters character member)

theorem all_isAllowed_blanks (count : Nat) :
    (blanks count).all isAllowed = true := by
  rw [List.all_eq_true]
  intro character member
  rw [List.eq_of_mem_replicate member]
  rfl

theorem all_isAllowed_entryLines
    {column : Nat}
    {rest : List Char}
    {words : List (List Char)}
    (areWords : ∀ word ∈ words, IsWord word)
    (allowed : rest.all isAllowed = true) :
    (entryLines column rest words).all isAllowed = true := by
  induction words with
  | nil => exact allowed
  | cons word words inductionHypothesis =>
      have others :=
        inductionHypothesis fun word member =>
          areWords word (List.mem_cons_of_mem _ member)
      have first := all_isAllowed_word (areWords word List.mem_cons_self)
      have marks :
          isAllowed '-' = true ∧ isAllowed ' ' = true ∧ isAllowed '\n' = true := by
        decide
      simp only [entryLines, List.all_cons, List.all_append, first, others,
        all_isAllowed_blanks, marks, Bool.and_self]

theorem all_isAllowed_line
    {field : Field}
    (readable : field.IsReadable)
    (next : Nat)
    {rest : List Char}
    (allowed : rest.all isAllowed = true) :
    (field.line next rest).all isAllowed = true := by
  have marks :
      isAllowed ':' = true ∧ isAllowed ' ' = true ∧ isAllowed '\n' = true := by
    decide
  simp only [Field.line, List.all_cons, List.all_append,
    all_isAllowed_word readable.key.isWord, all_isAllowed_word readable.value,
    all_isAllowed_blanks, allowed, marks, Bool.and_self]

theorem all_isAllowed_fieldLines
    {field : Field}
    {others : List Field}
    (readable : ∀ other ∈ field :: others, other.IsReadable)
    (column next : Nat)
    {rest : List Char}
    (allowed : rest.all isAllowed = true) :
    (fieldLines column next rest field others).all isAllowed = true := by
  induction others generalizing field with
  | nil =>
      exact all_isAllowed_line (readable field List.mem_cons_self) next allowed
  | cons second others inductionHypothesis =>
      exact
        all_isAllowed_line (readable field List.mem_cons_self) column
          (inductionHypothesis fun other member =>
            readable other (List.mem_cons_of_mem _ member))

end SyntheticTable.Yaml
