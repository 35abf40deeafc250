import SyntheticTable.Number.Decimal
import SyntheticTable.Yaml.Cursor

/-!
# Scalars of a YAML text

How the text of a scalar is read in each of its styles.

Within plain and quoted scalars a gap without a line break is kept as it is.
A gap with one line break becomes a blank; one with several keeps all but the
first.  In block scalars the lines are cut at the indentation, and a folded
one joins lines that do not start with a blank.

Reading fails where the text is not well-formed.
-/

namespace SyntheticTable.Yaml

/-- How a scalar is written. -/
inductive ScalarStyle where
  | plain
  | singleQuoted
  | doubleQuoted
  | literal
  | folded
deriving DecidableEq, Repr

/-- What a gap within a scalar is read as. -/
def foldedGap (gap : List Char) : List Char :=
  match breaksOf gap with
  | [] => gap
  | first :: more =>
      if first = '\n' then (if more.isEmpty then [' '] else more)
      else first :: more

/-- A scalar that was read, and the cursor after it. -/
structure ScannedScalar where
  text : List Char
  cursor : Cursor
  /-- Whether a line break was read after the scalar. -/
  lineEnded : Bool

/-! ## Plain scalars -/

/--
The characters of a plain word and those after it.  A colon ends a word before
a gap.  In a flow collection a comma or bracket ends it too, and a colon before
one of these is not allowed.
-/
def plainWord (inFlow : Bool) : List Char → Option (List Char × List Char)
  | [] => some ([], [])
  | character :: rest =>
      if isSpace character then
        some ([], character :: rest)
      else if inFlow && character = ':'
          && rest.head?.any (",?[]\x7b\x7d".toList.contains ·) then
        none
      else if character = ':' && endsWord rest
          || inFlow && ",[]\x7b\x7d".toList.contains character then
        some ([], character :: rest)
      else
        (plainWord inFlow rest).map fun (word, others) =>
          (character :: word, others)

/-- Whether a tab stands in the indentation of a later line of a gap. -/
def hasTabIndent (indent : Int) :
    (lineEnded : Bool) → (column : Nat) → List Char → Bool
  | _, _, [] => false
  | lineEnded, column, character :: rest =>
      if isBreak character then
        hasTabIndent indent true 0 rest
      else
        (lineEnded && character = '\t' && (column : Int) < indent)
          || hasTabIndent indent lineEnded (column + 1) rest

/--
Reads the words of a plain scalar after what has been read of it.  The scalar
ends before a comment, a document marker, or in a block before a line that is
indented less.
-/
def plainFrom
    (inFlow : Bool)
    (indent : Int) :
    (words : Nat) → ScannedScalar → (gap : List Char) → Option ScannedScalar
  | 0, scanned, _ => some scanned
  | words + 1, scanned, gap =>
      let cursor := scanned.cursor
      if cursor.atDocumentMarker || cursor.rest.head? = some '#' then
        some scanned
      else
        match plainWord inFlow cursor.rest with
        | none => none
        | some ([], _) => some scanned
        | some (word, afterWord) =>
            let text := scanned.text ++ foldedGap gap ++ word
            let wordEnd := cursor.skip word.length
            let (nextGap, rest) := splitSpace afterWord
            let gapEnd := wordEnd.moveTo rest
            let longer : ScannedScalar :=
              { text, cursor := gapEnd, lineEnded := nextGap.any isBreak }
            if nextGap.isEmpty then
              some longer
            else if hasTabIndent indent false wordEnd.column nextGap then
              none
            else if !inFlow && (gapEnd.column : Int) < indent then
              some longer
            else
              plainFrom inFlow indent words longer nextGap

/-- Reads a plain scalar whose lines have to be indented by so many columns. -/
def scanPlain (inFlow : Bool) (indent : Int) (cursor : Cursor) : Option ScannedScalar :=
  plainFrom inFlow indent cursor.rest.length ⟨[], cursor, false⟩ []

/-! ## Quoted scalars -/

/-- The character that an escape with one letter stands for. -/
def letterEscape? : Char → Option Char
  | '0' => some '\x00'
  | 'a' => some '\x07'
  | 'b' => some '\x08'
  | 't' | '\t' => some '\t'
  | 'n' => some '\n'
  | 'v' => some '\x0B'
  | 'f' => some '\x0C'
  | 'r' => some '\r'
  | 'e' => some '\x1B'
  | ' ' => some ' '
  | '"' => some '"'
  | '/' => some '/'
  | '\\' => some '\\'
  | 'N' => some '\u0085'
  | '_' => some '\u00A0'
  | 'L' => some '\u2028'
  | 'P' => some '\u2029'
  | _ => none

/-- How many digits follow an escape by code point. -/
def codeEscapeLength? : Char → Option Nat
  | 'x' => some 2
  | 'u' => some 4
  | 'U' => some 8
  | _ => none

/-- The value of a digit in a base up to sixteen. -/
def digitIn? (base : Nat) (character : Char) : Option Nat :=
  let digit? :=
    if character.isDigit then some (character.toNat - '0'.toNat)
    else if 'a' ≤ character && character ≤ 'f' then
      some (character.toNat - 'a'.toNat + 10)
    else if 'A' ≤ character && character ≤ 'F' then
      some (character.toNat - 'A'.toNat + 10)
    else none
  digit?.filter (· < base)

/-- The number that a non-empty sequence of digits in a base denotes. -/
def numberIn? (base : Nat) (characters : List Char) : Option Nat :=
  if characters.isEmpty then none
  else (characters.mapM (digitIn? base)).map (valueOfDigits base)

/-- The character with a code point, unless it is none or a surrogate. -/
def characterOf? (code : Nat) : Option Char :=
  if valid : code.isValidChar then some (Char.ofNatAux code valid) else none

/-- Where a piece of a quoted scalar ends. -/
inductive PieceEnd where
  /-- Before a gap or at the end of the text. -/
  | gap
  /-- After the closing quote. -/
  | quote
  /-- After a line break that was escaped. -/
  | escapedBreak

/-- A part of a quoted scalar without a gap. -/
structure QuotedPiece where
  text : List Char
  ending : PieceEnd
  rest : List Char

/-- The piece with one more character in front. -/
def QuotedPiece.cons (character : Char) (piece : QuotedPiece) : QuotedPiece :=
  { piece with text := character :: piece.text }

/-- Reads a piece of a single-quoted scalar; a quote is written twice. -/
def singleQuotedPiece : List Char → QuotedPiece
  | [] => ⟨[], .gap, []⟩
  | '\'' :: '\'' :: rest => (singleQuotedPiece rest).cons '\''
  | character :: rest =>
      if character = '\'' then ⟨[], .quote, rest⟩
      else if isSpace character then ⟨[], .gap, character :: rest⟩
      else (singleQuotedPiece rest).cons character

/-- Reads a piece of a double-quoted scalar. -/
def doubleQuotedPiece : List Char → Option QuotedPiece
  | [] => some ⟨[], .gap, []⟩
  | ['\\'] => none
  | '\\' :: letter :: rest =>
      if isBreak letter then
        some ⟨[], .escapedBreak, dropBreak (letter :: rest)⟩
      else
        match letterEscape? letter, codeEscapeLength? letter with
        | some character, _ =>
            (doubleQuotedPiece rest).map (.cons character)
        | none, some length =>
            if (rest.take length).length < length then none
            else
              match (numberIn? 16 (rest.take length)).bind characterOf? with
              | none => none
              | some character =>
                  (doubleQuotedPiece (rest.drop length)).map (.cons character)
        | none, none => none
  | character :: rest =>
      if character = '"' then some ⟨[], .quote, rest⟩
      else if isSpace character then some ⟨[], .gap, character :: rest⟩
      else (doubleQuotedPiece rest).map (.cons character)
termination_by characters => characters.length
decreasing_by all_goals simp only [List.length_cons, List.length_drop]; omega

/-- Reads pieces and gaps of a quoted scalar up to its closing quote. -/
def quotedFrom
    (piece? : List Char → Option QuotedPiece) :
    (pieces : Nat) → (text : List Char) → Cursor → Option ScannedScalar
  | 0, _, _ => none
  | pieces + 1, text, cursor =>
      if cursor.atDocumentMarker then
        none
      else
        match piece? cursor.rest with
        | none => none
        | some piece =>
            let text := text ++ piece.text
            let (gap, rest) := splitSpace piece.rest
            match piece.ending with
            | .quote => some ⟨text, cursor.moveTo piece.rest, false⟩
            | .escapedBreak =>
                quotedFrom piece? pieces (text ++ breaksOf gap)
                  (cursor.moveTo rest)
            | .gap =>
                if gap.isEmpty then none
                else
                  quotedFrom piece? pieces (text ++ foldedGap gap)
                    (cursor.moveTo rest)

/-- Reads a quoted scalar from after its opening quote. -/
def scanQuoted (single : Bool) (cursor : Cursor) : Option ScannedScalar :=
  let piece? :=
    if single then some ∘ singleQuotedPiece else doubleQuotedPiece
  quotedFrom piece? (cursor.rest.length + 1) [] cursor

/-! ## Block scalars -/

/-- What becomes of the line breaks at the end of a block scalar. -/
inductive Chomping where
  | strip
  | clip
  | keep
deriving DecidableEq, Repr

/-- The chomping that a mark asks for. -/
def chomping? : Char → Option Chomping
  | '-' => some .strip
  | '+' => some .keep
  | _ => none

/-- The marks of a block scalar. -/
structure BlockHeader where
  chomping : Chomping
  /-- By how much it is indented more than the block around it, if said. -/
  increment? : Option Nat
  rest : List Char

/-- An indentation digit, which may not be zero, if one comes first. -/
def readIncrement (characters : List Char) : Option (Option Nat × List Char) :=
  match characters with
  | [] => some (none, [])
  | character :: rest =>
      match digitIn? 10 character with
      | none => some (none, characters)
      | some 0 => none
      | some digit => some (some digit, rest)

/-- A chomping mark, if one comes first. -/
def readChomping (characters : List Char) : Option Chomping × List Char :=
  match characters with
  | [] => (none, [])
  | character :: rest =>
      match chomping? character with
      | none => (none, characters)
      | some chomping => (some chomping, rest)

/-- Reads the marks of a block scalar, which may come in either order. -/
def readBlockHeader (characters : List Char) : Option BlockHeader := do
  match readChomping characters with
  | (some chomping, rest) =>
      let (increment?, rest) ← readIncrement rest
      return { chomping, increment?, rest }
  | (none, _) =>
      let (increment?, rest) ← readIncrement characters
      match increment?, readChomping rest with
      | some _, (some chomping, rest) =>
          return { chomping, increment?, rest }
      | _, _ => return { chomping := .clip, increment?, rest }

/--
The characters of the next line, if blanks and a comment are all that is left
of this one.
-/
def restOfLine? (characters : List Char) : Option (List Char) :=
  let afterGap := characters.dropWhile isGap
  let afterComment :=
    if afterGap.head? = some '#' then afterGap.dropWhile (!isBreak ·)
    else afterGap
  match afterComment with
  | [] => some []
  | character :: _ =>
      if isBreak character then some (dropBreak afterComment) else none

/-- Blank lines, the greatest indentation among them, and what follows. -/
structure BlankLines where
  breaks : List Char
  greatest : Nat
  rest : List Char

/--
Reads blank lines and the indentation of the line after them.  Blanks count as
indentation up to a limit, if there is one; a tab may not stand among them.
-/
def blankLines
    (limit? : Option Nat) :
    (column greatest : Nat) → List Char → Option BlankLines
  | _, greatest, [] => some ⟨[], greatest, []⟩
  | _, greatest, '\r' :: '\n' :: rest =>
      (blankLines limit? 0 greatest rest).map fun lines =>
        { lines with breaks := '\n' :: lines.breaks }
  | column, greatest, character :: rest =>
      let inside := limit?.all (column < ·)
      if inside && character = ' ' then
        blankLines limit? (column + 1) (max greatest (column + 1)) rest
      else if inside && character = '\t' then
        none
      else if isBreak character then
        (blankLines limit? 0 greatest rest).map fun lines =>
          { lines with breaks := breakAs character :: lines.breaks }
      else
        some ⟨[], greatest, character :: rest⟩

/-- A block scalar that is being read. -/
structure BlockText where
  text : List Char
  /-- The line break after the last line. -/
  lastBreak : List Char
  /-- The line breaks of the blank lines after it. -/
  moreBreaks : List Char
  /-- Whether the last line started with a blank. -/
  startedBlank : Bool
  cursor : Cursor

/-- Reads the lines of a block scalar that are indented as it is. -/
def blockLines
    (literal : Bool)
    (indent : Nat) :
    (lines : Nat) → BlockText → Option BlockText
  | 0, block => some block
  | lines + 1, block =>
      match block.cursor.rest with
      | [] => some block
      | first :: _ =>
          if block.cursor.column ≠ indent then
            some block
          else
            let startsBlank := isGap first
            let joined :=
              !literal && block.lastBreak = ['\n'] && !block.startedBlank
                && !startsBlank
            let separator :=
              if joined then (if block.moreBreaks.isEmpty then [' '] else [])
              else block.lastBreak
            let line := block.cursor.rest.takeWhile (!isBreak ·)
            let afterLine := block.cursor.rest.dropWhile (!isBreak ·)
            match blankLines (some indent) 0 0 (dropBreak afterLine) with
            | none => none
            | some blank =>
                blockLines literal indent lines
                  { text := block.text ++ separator ++ block.moreBreaks ++ line
                    lastBreak := (breaksOf (afterLine.take 1))
                    moreBreaks := blank.breaks
                    startedBlank := startsBlank
                    cursor := block.cursor.moveTo blank.rest }

/--
Reads a block scalar from after its indicator, within a block that is indented
by so many columns, or by minus one at the top.
-/
def scanBlock
    (literal : Bool)
    (indent : Int)
    (cursor : Cursor) :
    Option ScannedScalar := do
  let header ← readBlockHeader cursor.rest
  let lineEnd ← restOfLine? header.rest
  let limit? := header.increment?.map fun increment => indent.toNat + increment
  let blank ← blankLines limit? 0 0 lineEnd
  let column := limit?.getD (max (max blank.greatest (indent + 1).toNat) 1)
  let block ←
    blockLines literal column cursor.rest.length
      { text := []
        lastBreak := []
        moreBreaks := blank.breaks
        startedBlank := false
        cursor := cursor.moveTo blank.rest }
  let ending :=
    match header.chomping with
    | .strip => []
    | .clip => block.lastBreak
    | .keep => block.lastBreak ++ block.moreBreaks
  return ⟨block.text ++ ending, block.cursor, true⟩

end SyntheticTable.Yaml
