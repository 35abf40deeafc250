import SyntheticTable.Proofs.WrittenBlocks

/-!
# Steps of a scan

When one scan comes to another, what gaps it passes over on the way, and how it
reads a word as a plain scalar.  Since every token takes a character at least,
the scan of a whole text has steps enough.
-/

namespace SyntheticTable.Yaml

namespace Scan

/-! ## Steps -/

/--
A scan comes to another: from there on both read the same tokens, and what was
read in between took a character for each step.
-/
def Leads (earlier later : Scan) : Prop :=
  ∃ steps : Nat,
    steps + later.cursor.rest.length ≤ earlier.cursor.rest.length
      ∧ ∀ characters : Nat,
        toEnd (characters + steps) earlier = toEnd characters later

namespace Leads

variable {first second third : Scan}

theorem refl (scan : Scan) : Leads scan scan :=
  ⟨0, by omega, fun _ => rfl⟩

theorem trans (left : Leads first second) (right : Leads second third) :
    Leads first third := by
  obtain ⟨leftSteps, leftLength, leftSame⟩ := left
  obtain ⟨rightSteps, rightLength, rightSame⟩ := right
  refine ⟨rightSteps + leftSteps, by omega, fun characters => ?_⟩
  rw [← Nat.add_assoc, leftSame, rightSame]

/-- Only the gap before the next token is read. -/
theorem of_gap
    (sameToken : first.toNextToken = second.toNextToken)
    (length : second.cursor.rest.length ≤ first.cursor.rest.length) :
    Leads first second := by
  refine ⟨0, by omega, fun characters => ?_⟩
  cases characters with
  | zero => rfl
  | succ characters => simp only [toEnd, sameToken]

theorem of_token
    {reached : Scan}
    {character : Char}
    {rest : List Char}
    (gap : first.toNextToken = some reached)
    (next : reached.cursor.rest = character :: rest)
    (read : reached.readToken character rest = some second)
    (length : second.cursor.rest.length < first.cursor.rest.length) :
    Leads first second := by
  refine ⟨1, by omega, fun characters => ?_⟩
  simp [toEnd, gap, next, read]

/-- The tokens of a scan that comes to the end of the text. -/
theorem tokens
    (leads : Leads first second)
    {reached : Scan}
    (gap : second.toNextToken = some reached)
    (nothing : reached.cursor.rest = []) :
    toEnd (first.cursor.rest.length + 1) first = reached.finish := by
  obtain ⟨steps, length, same⟩ := leads
  have split :
      first.cursor.rest.length + 1 =
        (first.cursor.rest.length - steps + 1) + steps := by
    omega
  rw [split, same]
  simp [toEnd, gap, nothing]

end Leads

/-! ## Gaps -/

theorem skipSpace_token
    (inFlow keyAllowed : Bool)
    (place : Place)
    {rest : List Char}
    (starts : StartsToken rest) :
    skipSpace inFlow false keyAllowed place rest =
      (⟨place, rest⟩, keyAllowed) := by
  cases rest with
  | nil => rfl
  | cons first rest =>
      obtain ⟨notSpace, notComment, notMark⟩ := startsToken_cons starts
      simp only [isSpace, isGap, Bool.or_eq_false_iff, decide_eq_false_iff_not]
        at notSpace
      simp [skipSpace, notSpace, notComment, notMark]

theorem skipSpace_blanks
    (inFlow keyAllowed : Bool)
    (place : Place)
    (count : Nat)
    (rest : List Char) :
    skipSpace inFlow false keyAllowed place (blanks count ++ rest) =
      skipSpace inFlow false keyAllowed (place.across count) rest := by
  induction count generalizing place with
  | zero => rfl
  | succ count inductionHypothesis =>
      have notBreak : isBreak ' ' = false := by decide
      rw [blanks, List.replicate_succ, List.cons_append, skipSpace, notBreak,
        ← blanks]
      simp [inductionHypothesis, Place.across_across, Nat.add_comm]

theorem skipSpace_feed
    (keyAllowed : Bool)
    (place : Place)
    (rest : List Char) :
    skipSpace false false keyAllowed place ('\n' :: rest) =
      skipSpace false false true place.nextLine rest := by
  rw [skipSpace, if_pos (by decide)]
  simp

/-- Where the gap ends the same, the next token is the same. -/
theorem toNextToken_congr
    {first second : Cursor}
    {firstAllowed secondAllowed : Bool}
    (sameEnd :
      skipSpace false false firstAllowed first.place first.rest =
        skipSpace false false secondAllowed second.place second.rest)
    (slots : Array (List Token))
    (indents : List Nat)
    (candidate? : Option Candidate) :
    (Scan.mk first slots indents candidate? [] firstAllowed).toNextToken =
      (Scan.mk second slots indents candidate? [] secondAllowed).toNextToken := by
  simp only [toNextToken, inFlow, List.isEmpty_nil, Bool.not_true, sameEnd]

/-- No block ends at a column that is not left of the innermost one. -/
theorem closeBlocks_of_le
    {scan : Scan}
    {column : Nat}
    (inside : scan.indent ≤ column) :
    scan.closeBlocks column = scan := by
  obtain ⟨cursor, slots, indents, candidate?, outer, keyAllowed⟩ := scan
  cases indents with
  | nil => simp [closeBlocks]
  | cons innermost others =>
      have notInside : ¬ column < innermost := by
        simpa [indent] using inside
      simp [closeBlocks, notInside]

/-- The next token starts at the cursor, and what may be a key is looked at. -/
theorem toNextToken_of_starts
    {scan : Scan}
    {kept? : Option Candidate}
    (starts : StartsToken scan.cursor.rest)
    (refreshedTo : refreshed scan.cursor.place scan.candidate? = some kept?)
    (outside : scan.outer = [])
    (inside : scan.indent ≤ scan.column) :
    scan.toNextToken = some { scan with candidate? := kept? } := by
  obtain ⟨⟨place, rest⟩, slots, indents, candidate?, outer, keyAllowed⟩ := scan
  subst outside
  have reached :
      (Scan.mk ⟨place, rest⟩ slots indents kept? [] keyAllowed).closeBlocks
          (place.column : Nat) =
        ⟨⟨place, rest⟩, slots, indents, kept?, [], keyAllowed⟩ :=
    closeBlocks_of_le inside
  simp only at refreshedTo
  simpa [toNextToken, skipSpace_token _ _ place starts, dropStale, refreshedTo,
    column, Cursor.column] using reached

/-! ## Words -/

/-- A dash starts a word only if another character of the word follows it. -/
theorem startsPlain_word
    {first : Char}
    {others : List Char}
    (isWord : IsWord (first :: others))
    (rest : List Char) :
    startsPlain false (first :: (others ++ rest)) = true := by
  have inWord := isWord.characters first List.mem_cons_self
  have marks :
      ("-?:,[]\x7b\x7d#&*!|>'\"%@`".toList.all fun mark =>
        mark = '-' || !isWordCharacter mark) = true := by
    decide
  by_cases dash : first = '-'
  · cases others with
    | nil =>
        subst dash
        exact absurd rfl isWord.notDash
    | cons second others =>
        have notSpace :=
          isSpace_of_isWordCharacter (isWord.characters second (by simp))
        simp only [isSpace, Bool.or_eq_false_iff] at notSpace
        simp [startsPlain, dash, notSpace.1]
  · have noMark :
        "-?:,[]\x7b\x7d#&*!|>'\"%@`".toList.contains first = false := by
      rw [List.contains_eq_mem, decide_eq_false_iff_not]
      intro member
      have outside := List.all_eq_true.mp marks first member
      simp [dash, inWord] at outside
    rw [startsPlain, isSpace_of_isWordCharacter inWord, noMark]
    rfl

/-- A word in a block is read as a plain scalar, unless it marks a document. -/
theorem readToken_word
    {scan : Scan}
    {first : Char}
    {others : List Char}
    (isWord : IsWord (first :: others))
    (rest : List Char)
    (noMarker : scan.cursor.atDocumentMarker = false)
    (outside : scan.outer = []) :
    scan.readToken first (others ++ rest) = scan.readPlain := by
  have inWord := isWord.characters first List.mem_cons_self
  have noEntry : ¬ (first = '-' ∧ endsWord (others ++ rest) = true) := by
    rintro ⟨rfl, ends⟩
    cases others with
    | nil => exact isWord.notDash rfl
    | cons second others =>
        have notSpace :=
          isSpace_of_isWordCharacter (isWord.characters second (by simp))
        rw [show endsWord (second :: others ++ rest) = isSpace second from rfl,
          notSpace] at ends
        cases ends
  have plain := startsPlain_word isWord rest
  have notInFlow : scan.inFlow = false := by simp [inFlow, outside]
  simp only [Cursor.atDocumentMarker, Bool.or_eq_false_iff] at noMarker
  simp [readToken, noMarker, noEntry, plain, notInFlow,
    ne_of_isWordCharacter inWord '%' (by decide),
    ne_of_isWordCharacter inWord '[' (by decide),
    ne_of_isWordCharacter inWord ']' (by decide),
    ne_of_isWordCharacter inWord '\x7b' (by decide),
    ne_of_isWordCharacter inWord '\x7d' (by decide),
    ne_of_isWordCharacter inWord ',' (by decide),
    ne_of_isWordCharacter inWord '?' (by decide),
    ne_of_isWordCharacter inWord ':' (by decide),
    ne_of_isWordCharacter inWord '*' (by decide),
    ne_of_isWordCharacter inWord '&' (by decide),
    ne_of_isWordCharacter inWord '!' (by decide),
    ne_of_isWordCharacter inWord '|' (by decide),
    ne_of_isWordCharacter inWord '>' (by decide),
    ne_of_isWordCharacter inWord '\'' (by decide),
    ne_of_isWordCharacter inWord '"' (by decide)]

/-! ## Scalars -/

/-- The column of the innermost of some blocks, minus one outside all. -/
def innermost : List Nat → Int
  | [] => -1
  | column :: _ => column

theorem indent_eq (scan : Scan) : scan.indent = innermost scan.indents := by
  obtain ⟨cursor, slots, indents, candidate?, outer, keyAllowed⟩ := scan
  cases indents <;> rfl

section

variable
  {indents : List Nat} {cursor : Cursor} {slots : Array (List Token)}
  {scanned : ScannedScalar}

/-- Where a key may start, a scalar may turn out to be one. -/
theorem readPlain_saved
    (read : scanPlain false (innermost indents + 1) cursor = some scanned) :
    (Scan.mk cursor slots indents none [] true).readPlain =
      some
        { cursor := scanned.cursor
          slots := (slots.push []).push [wordToken scanned.text]
          indents
          candidate? :=
            some
              { slot := slots.size
                required := innermost indents = cursor.place.column
                place := cursor.place }
          outer := []
          keyAllowed := scanned.lineEnded } := by
  simp [readPlain, saveCandidate, dropCandidate, read, pushScalar, push,
    allowKey, inFlow, indent_eq, Scan.column, Cursor.column, wordToken]

/-- Elsewhere a scalar is only that. -/
theorem readPlain_unsaved
    (read : scanPlain false (innermost indents + 1) cursor = some scanned) :
    (Scan.mk cursor slots indents none [] false).readPlain =
      some
        { cursor := scanned.cursor
          slots := slots.push [wordToken scanned.text]
          indents
          candidate? := none
          outer := []
          keyAllowed := scanned.lineEnded } := by
  simp [readPlain, saveCandidate, read, pushScalar, push, allowKey, inFlow,
    indent_eq, wordToken]

end

end Scan

end SyntheticTable.Yaml
