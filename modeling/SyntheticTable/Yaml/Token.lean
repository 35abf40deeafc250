import SyntheticTable.Yaml.Scalar
import SyntheticTable.Yaml.Tag

/-!
# Tokens of a YAML text

A text is cut into tokens: indicators, scalars, and the starts and ends of
block collections, which indentation implies.

A mapping key is only known to be one when the colon after it is found.  So an
empty slot is left before everything that may turn out to be a key, and the
colon fills it.  A key has to stand on one line with its colon, which starts at
most 1024 bytes after it.
-/

namespace SyntheticTable.Yaml

/-- A token. -/
inductive Token where
  | versionDirective (major minor : Nat)
  /-- A shorthand for the beginnings of tags. -/
  | tagDirective (handle : List Char) (stem : List UInt8)
  | documentStart
  | documentEnd
  | blockSequenceStart
  | blockMappingStart
  | blockEnd
  | flowSequenceStart
  | flowSequenceEnd
  | flowMappingStart
  | flowMappingEnd
  | blockEntry
  | flowEntry
  | key
  | value
  | alias (name : List Char)
  | anchor (name : List Char)
  | tag (handle : List Char) (suffix : List UInt8)
  | scalar (style : ScalarStyle) (text : List Char)
deriving DecidableEq, Repr

/-- What may turn out to be a mapping key. -/
structure Candidate where
  /-- The slot that was left before it. -/
  slot : Nat
  /-- Whether nothing but a key can stand there. -/
  required : Bool
  place : Place
deriving DecidableEq, Repr

/-- A text that is being cut. -/
structure Scan where
  cursor : Cursor
  /-- The slots so far; each holds the tokens that it stands for. -/
  slots : Array (List Token)
  /-- The columns of the block collections around, innermost first. -/
  indents : List Nat
  /-- What may be a key at the present level of flow collections. -/
  candidate? : Option Candidate
  /-- What may be a key at the levels around, innermost first. -/
  outer : List (Option Candidate)
  /-- Whether a key may start here. -/
  keyAllowed : Bool

namespace Scan

/-- The beginning of a text. -/
def start (characters : List Char) : Scan where
  cursor := .start characters
  slots := #[]
  indents := []
  candidate? := none
  outer := []
  keyAllowed := true

/-- Whether a flow collection is open. -/
def inFlow (scan : Scan) : Bool := !scan.outer.isEmpty

/-- The column of the innermost block collection, minus one outside all. -/
def indent (scan : Scan) : Int :=
  match scan.indents with
  | [] => -1
  | column :: _ => column

/-- The column of the cursor. -/
def column (scan : Scan) : Nat := scan.cursor.column

/-- Adds a token. -/
def push (scan : Scan) (token : Token) : Scan :=
  { scan with slots := scan.slots.push [token] }

/-- Reads past a number of characters. -/
def skip (scan : Scan) (count : Nat) : Scan :=
  { scan with cursor := scan.cursor.skip count }

/-- Allows or forbids a key at the cursor. -/
def allowKey (scan : Scan) (allowed : Bool) : Scan :=
  { scan with keyAllowed := allowed }

/-- Ends the block collections that are indented more than a column. -/
def closeBlocks (scan : Scan) (column : Int) : Scan :=
  if scan.inFlow then
    scan
  else
    let isInside (indent : Nat) : Bool := column < (indent : Int)
    let closed := scan.indents.takeWhile isInside
    { scan with
      indents := scan.indents.dropWhile isInside
      slots := scan.slots ++ closed.toArray.map fun _ => [.blockEnd] }

/-- Whether a block collection starts when something stands at a column. -/
def startsBlock (scan : Scan) (column : Nat) : Bool :=
  !scan.inFlow && scan.indent < column

/-- Starts a block collection at the cursor, unless one stands there already. -/
def openBlock (scan : Scan) (token : Token) : Scan :=
  if scan.startsBlock scan.column then
    { scan with
      indents := scan.column :: scan.indents
      slots := scan.slots.push [token] }
  else
    scan

/-- Gives up what may be a key; fails if it had to be one. -/
def dropCandidate (scan : Scan) : Option Scan :=
  if scan.candidate?.any Candidate.required then none
  else some { scan with candidate? := none }

/-- Leaves a slot for a key at the cursor, if one may start here. -/
def saveCandidate (scan : Scan) : Option Scan :=
  if scan.keyAllowed then
    scan.dropCandidate.map fun scan =>
      { scan with
        candidate? :=
          some
            { slot := scan.slots.size
              required := !scan.inFlow && scan.indent = scan.column
              place := scan.cursor.place }
        slots := scan.slots.push [] }
  else
    some scan

/-- Whether what may be a key lies too far back. -/
def isStale (place : Place) (candidate : Candidate) : Bool :=
  candidate.place.line < place.line
    || candidate.place.index + 1024 < place.index

/-- Gives up one key that lies too far back; fails if it had to be one. -/
def refreshed (place : Place) : Option Candidate → Option (Option Candidate)
  | none => some none
  | some candidate =>
      if isStale place candidate then
        if candidate.required then none else some none
      else
        some (some candidate)

/-- Gives up all keys that lie too far back. -/
def dropStale (scan : Scan) : Option Scan := do
  let candidate? ← refreshed scan.cursor.place scan.candidate?
  let outer ← scan.outer.mapM (refreshed scan.cursor.place)
  return { scan with candidate?, outer }

/--
Skips blanks, comments and line breaks.  A tab counts as a blank only where no
key may start.  After a line break a key may start again in a block.
-/
def skipSpace
    (inFlow : Bool) :
    (inComment keyAllowed : Bool) → Place → List Char → Cursor × Bool
  | _, keyAllowed, place, [] => (⟨place, []⟩, keyAllowed)
  | inComment, keyAllowed, place, character :: rest =>
      if isBreak character then
        skipSpace inFlow false (keyAllowed || !inFlow) (place.next character)
          rest
      else if inComment || character = '#' then
        skipSpace inFlow true keyAllowed (place.next character) rest
      else if character = ' '
          || (character = '\t' && (inFlow || !keyAllowed))
          || (character = '\uFEFF' && place.column = 0) then
        skipSpace inFlow false keyAllowed (place.next character) rest
      else
        (⟨place, character :: rest⟩, keyAllowed)

/-! ## Tokens by kind -/

/-- A directive or document marker: all blocks end, and no key may follow. -/
def atTop (scan : Scan) : Option Scan :=
  (scan.closeBlocks (-1)).dropCandidate.map (·.allowKey false)

/-- A decimal number of at most nine digits. -/
def versionNumber? (characters : List Char) : Option (Nat × List Char) :=
  let digits := characters.takeWhile Char.isDigit
  if digits.isEmpty || 9 < digits.length then none
  else some (decimalValue digits, characters.dropWhile Char.isDigit)

/-- Reads the version after the name of its directive. -/
def readVersion (characters : List Char) : Option (Token × List Char) := do
  let (major, rest) ← versionNumber? (characters.dropWhile isGap)
  match rest with
  | '.' :: rest =>
      let (minor, rest) ← versionNumber? rest
      return (.versionDirective major minor, rest)
  | _ => none

/-- The characters of a tag that need no brackets around it. -/
def isTagCharacter (verbatim : Bool) (character : Char) : Bool :=
  isNameCharacter character
    || ";/?:@&=+$.%!~*'()".toList.contains character
    || (verbatim && ",[]".toList.contains character)

/-- How many bytes a character takes whose first byte is given. -/
def escapedWidth? (byte : Nat) : Option Nat :=
  if byte < 0x80 then some 1
  else if byte / 0x20 = 6 then some 2
  else if byte / 0x10 = 14 then some 3
  else if byte / 0x08 = 30 then some 4
  else none

/--
Decodes the escapes of a tag, which stand for bytes.  `missing` more bytes are
expected to continue the last character.
-/
def decodeTag : (missing : Nat) → List Char → Option (List UInt8)
  | missing, '%' :: high :: low :: rest => do
      let byte ← numberIn? 16 [high, low]
      let missing ←
        if missing = 0 then (escapedWidth? byte).map (· - 1)
        else if byte / 0x40 = 2 then some (missing - 1)
        else none
      return .ofNat byte :: (← decodeTag missing rest)
  | 0, character :: rest =>
      if character = '%' then none
      else (decodeTag 0 rest).map (character.toUInt8 :: ·)
  | 0, [] => some []
  | _ + 1, _ => none

/-- Reads the characters of a tag that come first. -/
def readTagCharacters
    (verbatim : Bool)
    (characters : List Char) :
    Option (List UInt8 × List Char) :=
  (decodeTag 0 (characters.takeWhile (isTagCharacter verbatim))).map
    fun bytes => (bytes, characters.dropWhile (isTagCharacter verbatim))

/--
Reads a tag handle: an exclamation mark, and perhaps a name and another mark.
-/
def readHandle (characters : List Char) : Option (List Char × List Char) :=
  match characters with
  | '!' :: rest =>
      let name := rest.takeWhile isNameCharacter
      match rest.dropWhile isNameCharacter with
      | '!' :: afterMark => some ('!' :: name ++ ['!'], afterMark)
      | others => some ('!' :: name, others)
  | _ => none

/-- Reads the handle and the stem after the name of a tag directive. -/
def readTagDirective (characters : List Char) : Option (Token × List Char) := do
  let (handle, rest) ← readHandle (characters.dropWhile isGap)
  if handle ≠ ['!'] && handle.getLast? ≠ some '!' then
    none
  else if !(rest.head?.any isGap) then
    none
  else
    let (stem, rest) ← readTagCharacters true (rest.dropWhile isGap)
    if stem.isEmpty || !endsWord rest then none
    else return (.tagDirective handle stem, rest)

/-- Reads a directive. -/
def readDirective (scan : Scan) : Option Scan := do
  let scan ← scan.atTop
  let body := scan.cursor.rest.drop 1
  let name := body.takeWhile isNameCharacter
  let afterName := body.dropWhile isNameCharacter
  if !endsWord afterName then
    none
  else
    let (token, rest) ←
      if name = "YAML".toList then readVersion afterName
      else if name = "TAG".toList then readTagDirective afterName
      else none
    let rest ← restOfLine? rest
    return { scan.push token with cursor := scan.cursor.moveTo rest }

/-- Reads a document marker. -/
def readMarker (scan : Scan) (token : Token) : Option Scan :=
  scan.atTop.map fun scan => (scan.push token).skip 3

/-- Reads the bracket that opens a flow collection. -/
def openFlow (scan : Scan) (token : Token) : Option Scan :=
  scan.saveCandidate.map fun scan =>
    ({ scan with
        candidate? := none
        outer := scan.candidate? :: scan.outer
        keyAllowed := true }.push token).skip 1

/-- Reads the bracket that closes a flow collection. -/
def closeFlow (scan : Scan) (token : Token) : Option Scan :=
  scan.dropCandidate.map fun scan =>
    let (candidate?, outer) :=
      match scan.outer with
      | [] => (none, [])
      | candidate? :: outer => (candidate?, outer)
    ({ scan with candidate?, outer, keyAllowed := false }.push token).skip 1

/-- Reads the comma of a flow collection. -/
def readFlowEntry (scan : Scan) : Option Scan :=
  scan.dropCandidate.map fun scan =>
    ((scan.allowKey true).push .flowEntry).skip 1

/-- Reads the dash before an entry of a block sequence. -/
def readBlockEntry (scan : Scan) : Option Scan :=
  if !scan.inFlow && !scan.keyAllowed then
    none
  else
    (scan.openBlock .blockSequenceStart).dropCandidate.map fun scan =>
      ((scan.allowKey true).push .blockEntry).skip 1

/-- Reads the question mark before a key. -/
def readKey (scan : Scan) : Option Scan :=
  if !scan.inFlow && !scan.keyAllowed then
    none
  else
    (scan.openBlock .blockMappingStart).dropCandidate.map fun scan =>
      ((scan.allowKey (!scan.inFlow)).push .key).skip 1

/-- Reads the colon before a value, which may show that a key came before. -/
def readValue (scan : Scan) : Option Scan :=
  match scan.candidate? with
  | some candidate =>
      let starts := scan.startsBlock candidate.place.column
      let tokens :=
        if starts then [Token.blockMappingStart, .key] else [.key]
      some <|
        ({ scan with
            candidate? := none
            indents :=
              if starts then candidate.place.column :: scan.indents
              else scan.indents
            slots := scan.slots.setIfInBounds candidate.slot tokens
            keyAllowed := false }.push .value).skip 1
  | none =>
      if !scan.inFlow && !scan.keyAllowed then
        none
      else
        let scan := scan.openBlock .blockMappingStart
        some (((scan.allowKey (!scan.inFlow)).push .value).skip 1)

/-- Whether the name of an anchor may end before what comes next. -/
def endsName (rest : List Char) : Bool :=
  endsWord rest || rest.head?.any ("?:,]\x7d%@`".toList.contains ·)

/-- Reads an anchor or alias. -/
def readAnchor (scan : Scan) (token : List Char → Token) : Option Scan := do
  let scan ← scan.saveCandidate
  let body := scan.cursor.rest.drop 1
  let name := body.takeWhile isNameCharacter
  if name.isEmpty || !endsName (body.dropWhile isNameCharacter) then
    none
  else
    return ((scan.allowKey false).push (token name)).skip (1 + name.length)

/--
Reads the handle and the suffix of a tag.  Where nothing comes after the first
mark, or a zero byte, the mark is the suffix to no handle.
-/
def tagParts?
    (characters : List Char) :
    Option (List Char × List UInt8 × List Char) :=
  match characters with
  | '!' :: '<' :: body => do
      let (suffix, rest) ← readTagCharacters true body
      match suffix.isEmpty, rest with
      | false, '>' :: rest => return ([], suffix, rest)
      | _, _ => none
  | _ => do
      let (handle, afterHandle) ← readHandle characters
      if handle ≠ ['!'] && handle.getLast? = some '!' then
        let (suffix, rest) ← readTagCharacters false afterHandle
        if suffix.isEmpty then none else return (handle, suffix, rest)
      else
        let (more, rest) ← readTagCharacters false afterHandle
        let suffix := (handle.drop 1).map Char.toUInt8 ++ more
        if (Tag.beforeZero suffix).isEmpty then return ([], [Tag.mark], rest)
        else return (['!'], suffix, rest)

/-- Reads a tag. -/
def readTag (scan : Scan) : Option Scan := do
  let scan ← scan.saveCandidate
  let (handle, suffix, rest) ← tagParts? scan.cursor.rest
  if endsWord rest || (scan.inFlow && rest.head? = some ',') then
    return { (scan.allowKey false).push (.tag handle suffix) with
      cursor := scan.cursor.moveTo rest }
  else
    none

/-- Adds a scalar that was read. -/
def pushScalar
    (scan : Scan)
    (style : ScalarStyle)
    (scanned : ScannedScalar) :
    Scan :=
  { (scan.allowKey scanned.lineEnded).push (.scalar style scanned.text) with
    cursor := scanned.cursor }

/-- Reads a block scalar. -/
def readBlockScalar (scan : Scan) (style : ScalarStyle) : Option Scan := do
  let scan ← scan.dropCandidate
  let scanned ← scanBlock (style = .literal) scan.indent (scan.cursor.skip 1)
  return scan.pushScalar style scanned

/-- Reads a quoted scalar. -/
def readQuoted (scan : Scan) (style : ScalarStyle) : Option Scan := do
  let scan ← scan.saveCandidate
  let scanned ← scanQuoted (style = .singleQuoted) (scan.cursor.skip 1)
  return scan.pushScalar style scanned

/-- Reads a plain scalar. -/
def readPlain (scan : Scan) : Option Scan := do
  let scan ← scan.saveCandidate
  let scanned ← scanPlain scan.inFlow (scan.indent + 1) scan.cursor
  return scan.pushScalar .plain scanned

/-- Whether a plain scalar may start with what comes next. -/
def startsPlain (inFlow : Bool) : List Char → Bool
  | [] => false
  | character :: rest =>
      !(isSpace character
          || "-?:,[]\x7b\x7d#&*!|>'\"%@`".toList.contains character)
        || (character = '-' && !(rest.head?.any isGap))
        || (!inFlow && (character = '?' || character = ':') && !endsWord rest)

/-- Reads the next token; the cursor stands at its first character. -/
def readToken (scan : Scan) (character : Char) (rest : List Char) : Option Scan :=
  if scan.column = 0 && character = '%' then scan.readDirective
  else if scan.cursor.atMarker '-' then scan.readMarker .documentStart
  else if scan.cursor.atMarker '.' then scan.readMarker .documentEnd
  else if character = '[' then scan.openFlow .flowSequenceStart
  else if character = '\x7b' then scan.openFlow .flowMappingStart
  else if character = ']' then scan.closeFlow .flowSequenceEnd
  else if character = '\x7d' then scan.closeFlow .flowMappingEnd
  else if character = ',' then scan.readFlowEntry
  else if character = '-' && endsWord rest then scan.readBlockEntry
  else if character = '?' && (scan.inFlow || endsWord rest) then scan.readKey
  else if character = ':' && (scan.inFlow || endsWord rest) then scan.readValue
  else if character = '*' then scan.readAnchor .alias
  else if character = '&' then scan.readAnchor .anchor
  else if character = '!' then scan.readTag
  else if character = '|' && !scan.inFlow then scan.readBlockScalar .literal
  else if character = '>' && !scan.inFlow then scan.readBlockScalar .folded
  else if character = '\'' then scan.readQuoted .singleQuoted
  else if character = '"' then scan.readQuoted .doubleQuoted
  else if startsPlain scan.inFlow (character :: rest) then scan.readPlain
  else none

/-- Skips what stands before the next token and ends the blocks it leaves. -/
def toNextToken (scan : Scan) : Option Scan :=
  let (cursor, keyAllowed) :=
    skipSpace scan.inFlow false scan.keyAllowed scan.cursor.place
      scan.cursor.rest
  let moved : Scan := { scan with cursor, keyAllowed }
  moved.dropStale.map fun scan => scan.closeBlocks scan.column

/-- Ends all blocks at the end of the text. -/
def finish (scan : Scan) : Option (List Token) :=
  (scan.closeBlocks (-1)).dropCandidate.map fun scan =>
    scan.slots.toList.flatten

/-- Reads tokens to the end of the text; each takes a character at least. -/
def toEnd : (characters : Nat) → Scan → Option (List Token)
  | 0, _ => none
  | characters + 1, scan => do
      let scan ← scan.toNextToken
      match scan.cursor.rest with
      | [] => scan.finish
      | character :: rest => toEnd characters (← scan.readToken character rest)

end Scan

/-- The tokens of a text, unless it cannot be cut into tokens. -/
def tokens? (text : String) : Option (List Token) :=
  let characters := text.toList
  if characters.all isAllowed then
    Scan.toEnd (characters.length + 1) (.start characters)
  else
    none

end SyntheticTable.Yaml
