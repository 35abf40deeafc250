/-!
# Characters and places of a YAML text

Which characters separate words and lines, which may occur at all, and how the
place in a text moves as characters are read.
-/

namespace SyntheticTable.Yaml

/-- Whether a character ends a line. -/
def isBreak (character : Char) : Bool :=
  character = '\n' || character = '\r' || character.toNat = 0x85
    || character.toNat = 0x2028 || character.toNat = 0x2029

/-- Whether a character separates words within a line. -/
def isGap (character : Char) : Bool :=
  character = ' ' || character = '\t'

/-- Whether a character separates words or lines. -/
def isSpace (character : Char) : Bool :=
  isGap character || isBreak character

/-- Whether a character may occur in a text. -/
def isAllowed (character : Char) : Bool :=
  let code := character.toNat
  code = 0x09 || code = 0x0A || code = 0x0D || (0x20 ≤ code && code ≤ 0x7E)
    || code = 0x85 || (0xA0 ≤ code && code ≤ 0xD7FF)
    || (0xE000 ≤ code && code ≤ 0xFFFD) || 0x10000 ≤ code

/-- Whether a character may occur in the name of an anchor or directive. -/
def isNameCharacter (character : Char) : Bool :=
  character.isAlphanum || character = '_' || character = '-'

/-- Whether nothing, a blank or a line break comes next. -/
def endsWord : List Char → Bool
  | [] => true
  | character :: _ => isSpace character

/-- The characters of a text up to a blank or line break, and the others. -/
def splitSpace (characters : List Char) : List Char × List Char :=
  (characters.takeWhile isSpace, characters.dropWhile isSpace)

/-- What a line break is read as. -/
def breakAs (character : Char) : Char :=
  if character.toNat = 0x2028 || character.toNat = 0x2029 then character
  else '\n'

/-- The line breaks among some characters. -/
def breaksOf : List Char → List Char
  | [] => []
  | '\r' :: '\n' :: rest => '\n' :: breaksOf rest
  | character :: rest =>
      if isBreak character then breakAs character :: breaksOf rest
      else breaksOf rest

/-- The characters after one line break, if one comes first. -/
def dropBreak : List Char → List Char
  | '\r' :: '\n' :: rest => rest
  | character :: rest => if isBreak character then rest else character :: rest
  | [] => []

/-- A place in a text. -/
structure Place where
  line : Nat
  column : Nat
  /-- How many bytes lie before it. -/
  index : Nat
deriving DecidableEq, Repr

/-- The place after a character. -/
def Place.next (place : Place) (character : Char) : Place :=
  let index := place.index + character.utf8Size
  if isBreak character then { line := place.line + 1, column := 0, index }
  else { line := place.line, column := place.column + 1, index }

/-- What is left to read, and where it starts. -/
structure Cursor where
  place : Place
  rest : List Char
deriving DecidableEq, Repr

namespace Cursor

/-- The cursor at the beginning of a text. -/
def start (characters : List Char) : Cursor :=
  ⟨⟨0, 0, 0⟩, characters⟩

/-- The cursor after a number of characters. -/
def skip (cursor : Cursor) (count : Nat) : Cursor :=
  ⟨(cursor.rest.take count).foldl Place.next cursor.place,
    cursor.rest.drop count⟩

/-- The cursor at a later rest of the same text. -/
def moveTo (cursor : Cursor) (rest : List Char) : Cursor :=
  cursor.skip (cursor.rest.length - rest.length)

/-- The column of the cursor. -/
def column (cursor : Cursor) : Nat := cursor.place.column

/-- Whether three equal characters stand alone at the start of a line. -/
def atMarker (cursor : Cursor) (character : Char) : Bool :=
  cursor.column = 0
    && cursor.rest.take 3 = [character, character, character]
    && endsWord (cursor.rest.drop 3)

/-- Whether a document starts or ends here. -/
def atDocumentMarker (cursor : Cursor) : Bool :=
  cursor.atMarker '-' || cursor.atMarker '.'

end Cursor

end SyntheticTable.Yaml
