import SyntheticTable.Proofs.WrittenBlocks

/-!
# Nodes of mappings and sequences in blocks

Which node is put together from the tokens of a word, of a sequence of words
and of a mapping from words to nodes.  A part of the tokens is read the same
wherever it stands; only a sequence that is indented no further than its key
needs to know that no other entry follows it.
-/

namespace SyntheticTable.Yaml.Assemble

/--
A part of the tokens is read as something and dropped, if there are steps
enough.  Nothing else changes but the size of the document.
-/
def Reads
    {α : Type}
    (part : Nat → Assemble α)
    (least : Nat)
    (tokens rest : List Token)
    (result : α) :
    Prop :=
  ∀ steps, least ≤ steps →
    ∀ assembly : Assembly, assembly.tokens = tokens ++ rest →
      ∃ size,
        (part steps).run assembly =
          some (result, { assembly with tokens := rest, size })

section

variable {rest : List Token}

/-- More steps than enough are enough. -/
theorem Reads.mono
    {α : Type}
    {part : Nat → Assemble α}
    {least more : Nat}
    {tokens : List Token}
    {result : α}
    (read : Reads part least tokens rest result)
    (le : least ≤ more) :
    Reads part more tokens rest result :=
  fun steps enough => read steps (Nat.le_trans le enough)

theorem reads_word
    (inBlock inMapping : Bool)
    (word : List Char) :
    Reads (node inBlock inMapping) 2 [wordToken word] rest
      (wordNode word) := by
  intro steps enough assembly tokens
  obtain ⟨steps, rfl⟩ : ∃ less, steps = less + 2 := ⟨steps - 2, by omega⟩
  refine ⟨assembly.size + 1, ?_⟩
  simp [node, content, peek, properties, advance, counted, tokens, wordToken,
    wordNode]

theorem reads_brackets (inBlock inMapping : Bool) :
    Reads (node inBlock inMapping) 3 [.flowSequenceStart, .flowSequenceEnd] rest
      (.sequence none []) := by
  intro steps enough assembly tokens
  obtain ⟨steps, rfl⟩ : ∃ less, steps = less + 3 := ⟨steps - 3, by omega⟩
  refine ⟨assembly.size + 2, ?_⟩
  simp [node, content, flowItems, peek, properties, advance, counted, tokens]

/-- The entries of a sequence of words, up to what is no entry. -/
theorem reads_entries
    (words : List (List Char))
    (noEntry : rest.head? ≠ some .blockEntry) :
    Reads entriesOfMapping (words.length + 3) (entryTokens words) rest
      (words.map wordNode) := by
  induction words with
  | nil =>
      intro steps enough assembly tokens
      obtain ⟨steps, rfl⟩ : ∃ less, steps = less + 1 := ⟨steps - 1, by omega⟩
      have remaining : assembly.tokens = rest := tokens
      subst remaining
      refine ⟨assembly.size, ?_⟩
      cases next : assembly.tokens.head? with
      | none => simp [entriesOfMapping, peek, next]
      | some token =>
          have other : token ≠ .blockEntry := by
            rintro rfl
            exact noEntry next
          simp [entriesOfMapping, peek, next, other]
  | cons word words inductionHypothesis =>
      intro steps enough assembly tokens
      obtain ⟨steps, rfl⟩ : ∃ less, steps = less + 1 := ⟨steps - 1, by omega⟩
      obtain ⟨size, wordRead⟩ :=
        reads_word true false word steps (by omega)
          { assembly with
            tokens := [wordToken word] ++ (entryTokens words ++ rest) }
          rfl
      obtain ⟨size', othersRead⟩ :=
        inductionHypothesis steps (by simp at enough; omega)
          { assembly with tokens := entryTokens words ++ rest, size := size }
          rfl
      refine ⟨size', ?_⟩
      simp only [entryTokens, wordToken, List.flatMap_cons, List.cons_append,
        List.nil_append] at wordRead othersRead tokens
      simp [entriesOfMapping, peek, advance, tokens, wordRead, othersRead]

/-- A sequence of words that is indented no further than its key. -/
theorem reads_sequence
    {words : List (List Char)}
    (notEmpty : words ≠ [])
    (noEntry : rest.head? ≠ some .blockEntry) :
    Reads (node true true) (words.length + 5) (entryTokens words) rest
      (.sequence none (words.map wordNode)) := by
  intro steps enough assembly tokens
  obtain ⟨steps, rfl⟩ : ∃ less, steps = less + 2 := ⟨steps - 2, by omega⟩
  obtain ⟨size, read⟩ :=
    reads_entries words noEntry steps (by omega) assembly tokens
  obtain ⟨word, words, rfl⟩ := List.exists_cons_of_ne_nil notEmpty
  refine ⟨size + 2, ?_⟩
  simp only [entryTokens, List.flatMap_cons, List.cons_append,
    List.nil_append] at tokens
  simp [node, content, peek, properties, counted, tokens, wordToken, read]

/-- A part of a mapping is a node if one starts there. -/
theorem reads_part
    {least : Nat}
    {tokens : List Token}
    {result : Node}
    (starts :
      ∃ first more, tokens = first :: more
        ∧ first ∉ [Token.key, .value, .blockEnd])
    (read : Reads (node true true) least tokens rest result) :
    Reads blockPart (least + 1) tokens rest result := by
  intro steps enough assembly remaining
  obtain ⟨steps, rfl⟩ : ∃ less, steps = less + 1 := ⟨steps - 1, by omega⟩
  obtain ⟨size, nodeRead⟩ := read steps (by omega) assembly remaining
  obtain ⟨first, more, rfl, others⟩ := starts
  refine ⟨size, ?_⟩
  simp only [List.mem_cons, List.not_mem_nil, or_false, not_or] at others
  simp [blockPart, peek, remaining, others, nodeRead]

theorem reads_noEntries :
    Reads blockEntries 1 [.blockEnd] rest [] := by
  intro steps enough assembly tokens
  obtain ⟨steps, rfl⟩ : ∃ less, steps = less + 1 := ⟨steps - 1, by omega⟩
  refine ⟨assembly.size, ?_⟩
  simp [blockEntries, peek, advance, tokens]

theorem reads_entry
    (key : List Char)
    {least more : Nat}
    {valueTokens moreTokens : List Token}
    {value : Node}
    {entries : List (Node × Node)}
    (valueRead :
      Reads blockPart least valueTokens (moreTokens ++ rest) value)
    (moreRead : Reads blockEntries more moreTokens rest entries) :
    Reads blockEntries (least + more + 4)
      (.key :: wordToken key :: .value :: (valueTokens ++ moreTokens)) rest
      ((wordNode key, value) :: entries) := by
  intro steps enough assembly tokens
  obtain ⟨steps, rfl⟩ : ∃ less, steps = less + 1 := ⟨steps - 1, by omega⟩
  obtain ⟨keySize, keyRead⟩ :=
    reads_part ⟨_, _, rfl, by simp [wordToken]⟩ (reads_word true true key) steps
      (by omega)
      { assembly with
        tokens :=
          wordToken key :: .value :: (valueTokens ++ (moreTokens ++ rest)) }
      rfl
  obtain ⟨valueSize, valueRead⟩ :=
    valueRead steps (by omega)
      { assembly with
        tokens := valueTokens ++ (moreTokens ++ rest)
        size := keySize }
      rfl
  obtain ⟨size, moreRead⟩ :=
    moreRead steps (by omega)
      { assembly with
        tokens := moreTokens ++ rest
        size := valueSize }
      rfl
  refine ⟨size, ?_⟩
  simp only [List.cons_append, List.append_assoc] at tokens
  simp [blockEntries, peek, advance, tokens, keyRead, valueRead, moreRead]

/-- Fields of a mapping before other entries. -/
theorem reads_fields
    (fields : List Field)
    {more : Nat}
    {moreTokens : List Token}
    {entries : List (Node × Node)}
    (moreRead : Reads blockEntries more moreTokens rest entries) :
    Reads blockEntries (7 * fields.length + more)
      (fieldTokens fields ++ moreTokens) rest
      (fieldNodes fields ++ entries) := by
  induction fields with
  | nil => simpa [fieldTokens, fieldNodes] using moreRead
  | cons field fields inductionHypothesis =>
      have valueRead :
          Reads blockPart 3 [wordToken field.value]
            (fieldTokens fields ++ moreTokens ++ rest) (wordNode field.value) :=
        reads_part ⟨_, _, rfl, by simp [wordToken]⟩
          (reads_word true true field.value)
      have read :
          Reads blockEntries (3 + (7 * fields.length + more) + 4)
            (.key :: wordToken field.key :: .value ::
              ([wordToken field.value] ++ (fieldTokens fields ++ moreTokens)))
            rest
            ((wordNode field.key, wordNode field.value)
              :: (fieldNodes fields ++ entries)) :=
        reads_entry field.key valueRead inductionHypothesis
      simpa [fieldTokens, fieldNodes] using read.mono (by omega)

theorem reads_mapping
    (inMapping : Bool)
    {least : Nat}
    {tokens : List Token}
    {entries : List (Node × Node)}
    (read : Reads blockEntries least tokens rest entries) :
    Reads (node true inMapping) (least + 2) (.blockMappingStart :: tokens) rest
      (.mapping none entries) := by
  intro steps enough assembly remaining
  obtain ⟨steps, rfl⟩ : ∃ less, steps = less + 2 := ⟨steps - 2, by omega⟩
  obtain ⟨size, entriesRead⟩ :=
    read steps (by omega) { assembly with tokens := tokens ++ rest } rfl
  refine ⟨size + 2, ?_⟩
  simp only [List.cons_append] at remaining
  simp [node, content, peek, properties, advance, counted, remaining,
    entriesRead]

theorem dropEnds_nothing
    (steps : Nat)
    {assembly : Assembly}
    (nothing : assembly.tokens = []) :
    (dropEnds steps).run assembly = some ((), assembly) := by
  cases steps with
  | zero => rfl
  | succ steps => simp [dropEnds, peek, nothing]

/-- A document whose root is a mapping in a block. -/
theorem document_of_reads
    {least : Nat}
    {tokens : List Token}
    {root : Node}
    (read :
      Reads (node true false) least (.blockMappingStart :: tokens) [] root)
    {steps : Nat}
    (enough : least ≤ steps)
    (assembly : Assembly)
    (remaining : assembly.tokens = .blockMappingStart :: tokens) :
    ∃ size last,
      (document steps).run assembly =
        some
          ({ root? := some root
             anchored := assembly.anchored
             meanings := assembly.meanings
             size },
            last) := by
  obtain ⟨size, rootRead⟩ :=
    read steps enough assembly (by simpa using remaining)
  refine ⟨size, { assembly with tokens := [], size }, ?_⟩
  simp [document, Assemble.root, peek, remaining, rootRead, dropEnds_nothing]

end

end SyntheticTable.Yaml.Assemble
