import Mathlib.Data.List.TakeWhile
import SyntheticTable.Proofs.ScanSteps

/-!
# Lines of a block and their tokens

What a scan makes of the lines that a mapping is written with: a key with its
value on the same line, a key with the value below, an entry of a sequence, and
the empty sequence.  Each kind of line takes a scan from the start of the line
to the start of the next one and adds its tokens.
-/

namespace SyntheticTable.Yaml.Scan

/-! ## Keys -/

/-- Whether a key at a column starts a mapping within some blocks. -/
def startsMapping (indents : List Nat) (column : Nat) : Bool :=
  innermost indents < column

/-- The blocks around a key and its value. -/
def indentsOfKey (indents : List Nat) (column : Nat) : List Nat :=
  if startsMapping indents column then column :: indents else indents

/-- The tokens of a key with its colon. -/
def keyTokens
    (indents : List Nat)
    (column : Nat)
    (key : List Char) :
    List Token :=
  (if startsMapping indents column then [.blockMappingStart, .key]
    else [.key]) ++ [wordToken key, .value]

/-- A scan at the first character of a line. -/
structure AtLine
    (scan : Scan)
    (column : Nat)
    (indents : List Nat)
    (tokens : List Token)
    (rest : List Char) :
    Prop where
  rest : scan.cursor.rest = rest
  column : scan.cursor.place.column = column
  indents : scan.indents = indents
  tokens : scan.slots.toList.flatten = tokens
  outer : scan.outer = []
  keyAllowed : scan.keyAllowed = true
  /-- What may have been a key in the line before is given up. -/
  idle : refreshed scan.cursor.place scan.candidate? = some none

/-- A scan within a line, after the colon of a key. -/
structure AfterKey
    (scan : Scan)
    (indents : List Nat)
    (tokens : List Token)
    (rest : List Char) :
    Prop where
  inside : innermost indents < scan.cursor.place.column
  rest : scan.cursor.rest = rest
  indents : scan.indents = indents
  tokens : scan.slots.toList.flatten = tokens
  outer : scan.outer = []
  keyAllowed : scan.keyAllowed = false
  candidate : scan.candidate? = none

theorem AtLine.form
    {scan : Scan}
    {column : Nat}
    {indents : List Nat}
    {tokens : List Token}
    {rest : List Char}
    (atLine : AtLine scan column indents tokens rest) :
    ∃ place slots candidate?,
      scan = ⟨⟨place, rest⟩, slots, indents, candidate?, [], true⟩
        ∧ place.column = column
        ∧ slots.toList.flatten = tokens
        ∧ refreshed place candidate? = some none := by
  obtain ⟨⟨place, remaining⟩, slots, blocks, candidate?, outer, allowed⟩ := scan
  obtain ⟨restEq, columnEq, blocksEq, tokensEq, outerEq, allowedEq, idle⟩ :=
    atLine
  simp only at restEq blocksEq outerEq allowedEq
  subst restEq blocksEq outerEq allowedEq
  exact ⟨place, slots, candidate?, rfl, columnEq, tokensEq, idle⟩

theorem AfterKey.form
    {scan : Scan}
    {indents : List Nat}
    {tokens : List Token}
    {rest : List Char}
    (afterKey : AfterKey scan indents tokens rest) :
    ∃ place slots,
      scan = ⟨⟨place, rest⟩, slots, indents, none, [], false⟩
        ∧ slots.toList.flatten = tokens
        ∧ innermost indents < place.column := by
  obtain ⟨⟨place, remaining⟩, slots, blocks, candidate?, outer, allowed⟩ := scan
  obtain ⟨inside, restEq, blocksEq, tokensEq, outerEq, allowedEq, candidateEq⟩ :=
    afterKey
  simp only at restEq blocksEq outerEq allowedEq candidateEq
  subst restEq blocksEq outerEq allowedEq candidateEq
  exact ⟨place, slots, rfl, tokensEq, inside⟩

section

variable
  {scan : Scan} {column : Nat} {indents : List Nat} {tokens : List Token}
  {word rest : List Char}

/-- A colon before a gap shows that a key came before. -/
theorem readToken_colon
    {place start : Place}
    {slots : Array (List Token)}
    {required : Bool}
    (within : place.column ≠ 0)
    (ends : endsWord rest = true) :
    (Scan.mk ⟨place, ':' :: rest⟩ ((slots.push []).push [wordToken word])
        indents (some ⟨slots.size, required, start⟩) [] false).readToken
          ':' rest =
      some
        { cursor := ⟨place.across 1, rest⟩
          slots :=
            ((slots.push
              (if startsMapping indents start.column then
                [.blockMappingStart, .key]
              else [.key])).push [wordToken word]).push [.value]
          indents := indentsOfKey indents start.column
          candidate? := none
          outer := []
          keyAllowed := false } := by
  have skipped :
      (Cursor.mk place (':' :: rest)).skip 1 = ⟨place.across 1, rest⟩ := rfl
  have starts (cursor : Cursor) (slots : Array (List Token)) (candidate?) :
      (Scan.mk cursor slots indents candidate? [] false).startsBlock
          start.column = startsMapping indents start.column := by
    simp [startsBlock, inFlow, startsMapping, indent_eq]
  have filled (tokens : List Token) :
      ((slots.push []).push [wordToken word]).setIfInBounds slots.size tokens =
        (slots.push tokens).push [wordToken word] := by
    apply Array.ext'
    simp
  simp [readToken, Cursor.atMarker, Cursor.column, within, ends, readValue,
    starts, filled, push, skip, skipped, indentsOfKey, Scan.column]

theorem leads_key
    (atLine : AtLine scan column indents tokens (word ++ ':' :: rest))
    (isKey : IsKey word)
    (ends : endsWord rest = true)
    (inside : innermost indents ≤ column) :
    ∃ later,
      Leads scan later
        ∧ AfterKey later (indentsOfKey indents column)
          (tokens ++ keyTokens indents column word) rest := by
  obtain ⟨isWord, short, letter⟩ := isKey
  obtain ⟨place, slots, candidate?, rfl, rfl, rfl, idle⟩ := atLine.form
  obtain ⟨first, others, rfl⟩ := List.exists_cons_of_ne_nil isWord.notEmpty
  have notDash : first ≠ '-' := by simpa using letter.1
  have notPoint : first ≠ '.' := by simpa using letter.2
  have noMarker :=
    Cursor.atDocumentMarker_of_head place notDash notPoint
      (others ++ ':' :: rest)
  generalize candidateEq :
    Candidate.mk slots.size (innermost indents = place.column) place = candidate
  have keyRead :
      Leads
        ⟨⟨place, first :: others ++ ':' :: rest⟩, slots, indents, candidate?, [],
          true⟩
        ⟨⟨place.across (first :: others).length, ':' :: rest⟩,
          (slots.push []).push [wordToken (first :: others)], indents,
          some candidate, [], false⟩ := by
    refine .of_token
      (toNextToken_of_starts (startsToken_append isWord _) idle rfl ?_) rfl ?_ ?_
    · rw [indent_eq]
      exact inside
    · rw [← candidateEq]
      exact (readToken_word isWord (':' :: rest) noMarker rfl).trans
        (readPlain_saved (scanPlain_key _ isWord noMarker ends))
    · simp only [List.length_append, List.length_cons]
      omega
  have colonRead :
      Leads
        ⟨⟨place.across (first :: others).length, ':' :: rest⟩,
          (slots.push []).push [wordToken (first :: others)], indents,
          some candidate, [], false⟩
        ⟨⟨(place.across (first :: others).length).across 1, rest⟩,
          ((slots.push
            (if startsMapping indents place.column then
              [.blockMappingStart, .key]
            else [.key])).push [wordToken (first :: others)]).push [.value],
          indentsOfKey indents place.column, none, [], false⟩ := by
    subst candidateEq
    have fresh :
        refreshed (place.across (first :: others).length)
            (some ⟨slots.size, innermost indents = place.column, place⟩) =
          some (some ⟨slots.size, innermost indents = place.column, place⟩) := by
      have notStale :
          isStale (place.across (first :: others).length)
            ⟨slots.size, innermost indents = place.column, place⟩ = false := by
        simpa [isStale] using short
      rw [refreshed, if_neg (by rw [notStale]; decide)]
    have stillInside :
        innermost indents ≤ (place.column + (first :: others).length : Nat) := by
      omega
    refine .of_token (toNextToken_of_starts rfl fresh rfl ?_) rfl
      (readToken_colon (by simp) ends) (by simp)
    rw [indent_eq]
    exact stillInside
  refine ⟨_, keyRead.trans colonRead, ?_, rfl, rfl, ?_, rfl, rfl, rfl⟩
  · simp only [Place.across_column, indentsOfKey]
    split
    · change (place.column : Int) < _
      omega
    · omega
  · simp [keyTokens]

/-! ## Values -/

/-- A single blank after the colon of a key is passed over. -/
theorem leads_blank
    (afterKey : AfterKey scan indents tokens (' ' :: rest)) :
    ∃ later, Leads scan later ∧ AfterKey later indents tokens rest := by
  obtain ⟨place, slots, rfl, rfl, inside⟩ := afterKey.form
  refine
    ⟨⟨⟨place.across 1, rest⟩, slots, indents, none, [], false⟩,
      .of_gap (toNextToken_congr ?_ slots indents none) (by simp),
      ?_, rfl, rfl, rfl, rfl, rfl, rfl⟩
  · exact skipSpace_blanks false false place 1 rest
  · simp only [Place.across_column]
    omega

/-- A line break and the indentation of the next line are passed over. -/
theorem leads_feed
    (afterKey :
      AfterKey scan indents tokens ('\n' :: blanks column ++ rest)) :
    ∃ later, Leads scan later ∧ AtLine later column indents tokens rest := by
  obtain ⟨place, slots, rfl, rfl, inside⟩ := afterKey.form
  refine
    ⟨⟨⟨place.nextLine.across column, rest⟩, slots, indents, none, [], true⟩,
      .of_gap (toNextToken_congr ?_ slots indents none) ?_,
      rfl, by simp, rfl, rfl, rfl, rfl, rfl⟩
  · exact (skipSpace_feed false place (blanks column ++ rest)).trans
      (skipSpace_blanks false true place.nextLine column rest)
  · simp only [List.length_append, List.length_cons]
    omega

/-- A word is the value of a key if the next line is indented no further. -/
theorem leads_value
    (afterKey :
      AfterKey scan indents tokens (word ++ ('\n' :: blanks column ++ rest)))
    (isWord : IsWord word)
    (starts : StartsToken rest)
    (noFurther : (column : Int) ≤ innermost indents) :
    ∃ later,
      Leads scan later
        ∧ AtLine later column indents (tokens ++ [wordToken word]) rest := by
  obtain ⟨place, slots, rfl, rfl, inside⟩ := afterKey.form
  have within :
      (Cursor.mk place (word ++ ('\n' :: blanks column ++ rest))).column ≠ 0 := by
    simp only [Cursor.column]
    omega
  have noMarker := Cursor.atDocumentMarker_of_column within
  have scanned :=
    scanPlain_value (innermost indents + 1) isWord noMarker starts (by omega)
  obtain ⟨first, others, rfl⟩ := List.exists_cons_of_ne_nil isWord.notEmpty
  refine
    ⟨⟨⟨(place.across (first :: others).length).nextLine.across column, rest⟩,
        slots.push [wordToken (first :: others)], indents, none, [], true⟩,
      .of_token
        (toNextToken_of_starts (startsToken_append isWord _) rfl rfl ?_) rfl
        ((readToken_word isWord ('\n' :: blanks column ++ rest) noMarker
          rfl).trans (readPlain_unsaved scanned)) ?_,
      rfl, by simp, rfl, by simp, rfl, rfl, rfl⟩
  · rw [indent_eq]
    exact Int.le_of_lt inside
  · simp only [List.length_append, List.length_cons]
    omega

theorem leads_brackets
    (afterKey : AfterKey scan indents tokens ('[' :: ']' :: rest)) :
    ∃ later,
      Leads scan later
        ∧ AfterKey later indents
          (tokens ++ [.flowSequenceStart, .flowSequenceEnd]) rest := by
  obtain ⟨place, slots, rfl, rfl, inside⟩ := afterKey.form
  have opened :
      Leads
        ⟨⟨place, '[' :: ']' :: rest⟩, slots, indents, none, [], false⟩
        ⟨⟨place.across 1, ']' :: rest⟩, slots.push [.flowSequenceStart], indents,
          none, [none], true⟩ := by
    refine .of_token (toNextToken_of_starts rfl rfl rfl ?_) rfl ?_ (by simp)
    · rw [indent_eq]
      exact Int.le_of_lt inside
    · have skipped :
          (Cursor.mk place ('[' :: ']' :: rest)).skip 1 =
            ⟨place.across 1, ']' :: rest⟩ := rfl
      simp [readToken, Cursor.atMarker, openFlow, saveCandidate, push, skip,
        skipped]
  have closed :
      Leads
        ⟨⟨place.across 1, ']' :: rest⟩, slots.push [.flowSequenceStart], indents,
          none, [none], true⟩
        ⟨⟨(place.across 1).across 1, rest⟩,
          (slots.push [.flowSequenceStart]).push [.flowSequenceEnd], indents,
          none, [], false⟩ := by
    have starts : StartsToken (']' :: rest) := rfl
    have reached :
        (Scan.mk ⟨place.across 1, ']' :: rest⟩
            (slots.push [.flowSequenceStart]) indents none [none]
            true).toNextToken =
          some
            ⟨⟨place.across 1, ']' :: rest⟩, slots.push [.flowSequenceStart],
              indents, none, [none], true⟩ := by
      simp [toNextToken, skipSpace_token _ _ _ starts, dropStale, refreshed,
        closeBlocks, inFlow]
    have skipped :
        (Cursor.mk (place.across 1) (']' :: rest)).skip 1 =
          ⟨(place.across 1).across 1, rest⟩ := rfl
    refine .of_token reached rfl ?_ (by simp)
    simp [readToken, Cursor.atMarker, closeFlow, dropCandidate, push, skip,
      skipped]
  refine ⟨_, opened.trans closed, ?_, rfl, rfl, by simp, rfl, rfl, rfl⟩
  simp only [Place.across_column]
  omega

/-! ## Entries of a sequence -/

/--
A word after a dash is an entry of the sequence that stands at the column of
the block around it.
-/
theorem leads_entry
    (atLine :
      AtLine scan column (column :: indents) tokens
        ('-' :: ' ' :: (word ++ ('\n' :: blanks column ++ rest))))
    (isWord : IsWord word)
    (starts : StartsToken rest) :
    ∃ later,
      Leads scan later
        ∧ AtLine later column (column :: indents)
          (tokens ++ [.blockEntry, wordToken word]) rest := by
  obtain ⟨place, slots, candidate?, rfl, rfl, rfl, idle⟩ := atLine.form
  have within :
      (Cursor.mk (place.across 2)
        (word ++ ('\n' :: blanks place.column ++ rest))).column ≠ 0 := by
    simp [Cursor.column]
  have noMarker := Cursor.atDocumentMarker_of_column within
  have scanned :=
    scanPlain_value (innermost (place.column :: indents) + 1) isWord noMarker
      starts (by simp only [innermost]; omega)
  generalize line :
    word ++ ('\n' :: blanks place.column ++ rest) = remaining at *
  have dashRead :
      Leads
        ⟨⟨place, '-' :: ' ' :: remaining⟩, slots, place.column :: indents,
          candidate?, [], true⟩
        ⟨⟨place.across 1, ' ' :: remaining⟩, slots.push [.blockEntry],
          place.column :: indents, none, [], true⟩ := by
    have skipped :
        (Cursor.mk place ('-' :: ' ' :: remaining)).skip 1 =
          ⟨place.across 1, ' ' :: remaining⟩ := rfl
    refine .of_token (toNextToken_of_starts rfl idle rfl ?_) rfl ?_ (by simp)
    · rw [indent_eq]
      exact Int.le_refl _
    · simp [readToken, Cursor.atMarker, readBlockEntry, openBlock, startsBlock,
        indent_eq, innermost, dropCandidate, allowKey, push, skip, skipped,
        endsWord, inFlow, Scan.column, Cursor.column, isSpace, isGap]
  have blankRead :
      Leads
        ⟨⟨place.across 1, ' ' :: remaining⟩, slots.push [.blockEntry],
          place.column :: indents, none, [], true⟩
        ⟨⟨place.across 2, remaining⟩, slots.push [.blockEntry],
          place.column :: indents, none, [], true⟩ :=
    .of_gap
      (toNextToken_congr
        (skipSpace_blanks false true (place.across 1) 1 remaining) _ _ none)
      (by simp)
  let candidate : Candidate :=
    { slot := (slots.push [.blockEntry]).size
      required := innermost (place.column :: indents) = (place.across 2).column
      place := place.across 2 }
  have wordRead :
      Leads
        ⟨⟨place.across 2, remaining⟩, slots.push [.blockEntry],
          place.column :: indents, none, [], true⟩
        ⟨⟨((place.across 2).across word.length).nextLine.across place.column,
            rest⟩,
          ((slots.push [.blockEntry]).push []).push [wordToken word],
          place.column :: indents, some candidate, [], true⟩ := by
    obtain ⟨first, others, rfl⟩ := List.exists_cons_of_ne_nil isWord.notEmpty
    subst line
    refine .of_token
      (toNextToken_of_starts (startsToken_append isWord _) rfl rfl ?_) rfl
      ((readToken_word isWord ('\n' :: blanks place.column ++ rest) noMarker
        rfl).trans (readPlain_saved scanned)) ?_
    · rw [indent_eq]
      simp only [innermost, Scan.column, Cursor.column, Place.across_column]
      omega
    · simp only [List.length_append, List.length_cons]
      omega
  have notKey :
      ¬ innermost (place.column :: indents) = (place.column : Int) + 2 := by
    simp only [innermost]
    omega
  refine ⟨_, (dashRead.trans blankRead).trans wordRead, rfl, by simp, rfl,
    by simp, rfl, rfl, ?_⟩
  simp [refreshed, isStale, candidate, notKey]

theorem leads_entries
    {words : List (List Char)}
    (atLine :
      AtLine scan column (column :: indents) tokens
        (entryLines column rest words))
    (areWords : ∀ word ∈ words, IsWord word)
    (starts : StartsToken rest) :
    ∃ later,
      Leads scan later
        ∧ AtLine later column (column :: indents)
          (tokens ++ entryTokens words) rest := by
  induction words generalizing scan tokens with
  | nil =>
      refine ⟨scan, .refl scan, ?_⟩
      simpa [entryTokens, entryLines] using atLine
  | cons word words inductionHypothesis =>
      obtain ⟨next, first, atNext⟩ :=
        leads_entry atLine (areWords word List.mem_cons_self)
          (startsToken_entryLines starts column words)
      obtain ⟨later, others, atLater⟩ :=
        inductionHypothesis atNext fun word member =>
          areWords word (List.mem_cons_of_mem _ member)
      refine ⟨later, first.trans others, ?_⟩
      simpa [entryTokens] using atLater

/-! ## Fields -/

theorem innermost_indentsOfKey
    (inside : innermost indents ≤ column) :
    innermost (indentsOfKey indents column) = column := by
  by_cases starts : startsMapping indents column = true
  · rw [indentsOfKey, if_pos starts]
    rfl
  · rw [indentsOfKey, if_neg starts]
    simp only [startsMapping, decide_eq_true_eq] at starts
    omega

theorem leads_field
    {field : Field}
    {next : Nat}
    (atLine : AtLine scan column indents tokens (field.line next rest))
    (readable : field.IsReadable)
    (inside : innermost indents ≤ column)
    (noFurther : next ≤ column)
    (starts : StartsToken rest) :
    ∃ later,
      Leads scan later
        ∧ AtLine later next (indentsOfKey indents column)
          (tokens ++ (keyTokens indents column field.key
            ++ [wordToken field.value])) rest := by
  obtain ⟨_, keyRead, afterKey⟩ :=
    leads_key atLine readable.key rfl inside
  obtain ⟨_, blankRead, beforeValue⟩ := leads_blank afterKey
  obtain ⟨later, valueRead, atLater⟩ :=
    leads_value beforeValue readable.value starts
      (by rw [innermost_indentsOfKey inside]; omega)
  refine ⟨later, (keyRead.trans blankRead).trans valueRead, ?_⟩
  simpa using atLater

/-- Fields below each other, the first of which may start their mapping. -/
theorem leads_fields
    {field : Field}
    {others : List Field}
    {next : Nat}
    (atLine :
      AtLine scan column indents tokens
        (fieldLines column next rest field others))
    (readable : ∀ other ∈ field :: others, other.IsReadable)
    (inside : innermost indents ≤ column)
    (noFurther : next ≤ column)
    (starts : StartsToken rest) :
    ∃ later,
      Leads scan later
        ∧ AtLine later next (indentsOfKey indents column)
          (tokens ++ (keyTokens indents column field.key
            ++ wordToken field.value :: fieldTokens others)) rest := by
  induction others generalizing scan field indents tokens with
  | nil =>
      simpa [fieldTokens] using
        leads_field atLine (readable field List.mem_cons_self) inside noFurther
          starts
  | cons second others inductionHypothesis =>
      have secondReadable := readable second (by simp)
      obtain ⟨middle, first, atMiddle⟩ :=
        leads_field atLine (readable field List.mem_cons_self) inside
          (Nat.le_refl column)
          (startsToken_fieldLines secondReadable column next rest others)
      have around := innermost_indentsOfKey inside
      obtain ⟨later, more, atLater⟩ :=
        inductionHypothesis atMiddle
          (fun other member => readable other (List.mem_cons_of_mem _ member))
          (Int.le_of_eq around)
      have started :
          startsMapping (indentsOfKey indents column) column = false := by
        simp [startsMapping, around]
      have same :
          indentsOfKey (indentsOfKey indents column) column =
            indentsOfKey indents column := by
        rw [indentsOfKey, started]
        rfl
      rw [same, keyTokens.eq_def (indentsOfKey indents column), started]
        at atLater
      refine ⟨later, first.trans more, ?_⟩
      simpa [fieldTokens] using atLater

/-! ## The end of the text -/

theorem flatten_ends (closed : List Nat) :
    (closed.toArray.map fun _ => [Token.blockEnd]).toList.flatten =
      List.replicate closed.length .blockEnd := by
  rw [List.map_toArray, List.map_const', List.flatten_replicate_singleton]

/-- At the end of the text all blocks end. -/
theorem finish_of_atLine
    (atLine : AtLine scan 0 indents tokens []) :
    ∃ reached,
      scan.toNextToken = some reached
        ∧ reached.cursor.rest = []
        ∧ reached.finish =
          some (tokens ++ List.replicate indents.length .blockEnd) := by
  obtain ⟨place, slots, candidate?, rfl, column, rfl, idle⟩ := atLine.form
  let inside (column : Nat) : Bool := (0 : Int) < (column : Int)
  let reached : Scan :=
    { cursor := ⟨place, []⟩
      slots :=
        slots ++ (indents.takeWhile inside).toArray.map fun _ => [.blockEnd]
      indents := indents.dropWhile inside
      candidate? := none
      outer := []
      keyAllowed := true }
  have all :
      (indents.dropWhile inside).takeWhile
          (fun column : Nat => decide ((-1 : Int) < column)) =
        indents.dropWhile inside := by
    rw [List.takeWhile_eq_self_iff]
    intro column _
    rw [decide_eq_true_iff]
    omega
  have lengths :
      (indents.takeWhile inside).length + (indents.dropWhile inside).length =
        indents.length := by
    rw [← List.length_append, List.takeWhile_append_dropWhile]
  refine ⟨reached, ?_, rfl, ?_⟩
  · simp [toNextToken, skipSpace, dropStale, idle, closeBlocks, inFlow,
      Scan.column, Cursor.column, column, reached, inside]
  · have finished :
        reached.finish =
          some
            (reached.slots
              ++ reached.indents.toArray.map fun _ =>
                [Token.blockEnd]).toList.flatten := by
      simp [finish, closeBlocks, inFlow, dropCandidate, reached, all]
    rw [finished, Array.toList_append, List.flatten_append, flatten_ends,
      Array.toList_append, List.flatten_append, flatten_ends,
      List.append_assoc, List.replicate_append_replicate, lengths]

end

end SyntheticTable.Yaml.Scan
