/-!
# Blank characters

The Unicode property `White_Space` as a list of code-point ranges, and the
removal of blanks from both ends of a text and of a stem from its front.
-/

namespace SyntheticTable.Text

/-- Closed ranges of code points, ascending and apart, with `White_Space`. -/
def blankRanges : List (Nat × Nat) :=
  [(0x09, 0x0D), (0x20, 0x20), (0x85, 0x85), (0xA0, 0xA0),
    (0x1680, 0x1680), (0x2000, 0x200A), (0x2028, 0x2029),
    (0x202F, 0x202F), (0x205F, 0x205F), (0x3000, 0x3000)]

/-- Whether a character has the property `White_Space`. -/
def isBlank (character : Char) : Bool :=
  blankRanges.any fun range =>
    range.1 ≤ character.toNat && character.toNat ≤ range.2

/-- The characters without the blanks at either end. -/
def trimBlanks (characters : List Char) : List Char :=
  ((characters.dropWhile isBlank).reverse.dropWhile isBlank).reverse

/--
A text without blanks at its ends and with its ASCII letters in lower case.
Letters beyond ASCII keep their case.
-/
def folded (text : String) : String :=
  String.ofList ((trimBlanks text.toList).map Char.toLower)

/-- What follows a stem at the front of a text, if it is there. -/
def withoutStem? (stem text : String) : Option String :=
  (stem.toList.isPrefixOf? text.toList).map String.ofList

end SyntheticTable.Text
