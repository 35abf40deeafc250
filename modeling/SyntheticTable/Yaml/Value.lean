import SyntheticTable.Yaml.Node

/-!
# Values of YAML scalars

A plain scalar may be null, a truth value, an integer, a number with a point
or exponent, or else a text; a scalar in quotes or in a block is a text.  A tag
of the language's own fixes the kind.
-/

namespace SyntheticTable.Yaml

/-- What a scalar stands for. -/
inductive Atom where
  | null
  | boolean (value : Bool)
  | integer (value : Int)
  /-- An integer beyond 64 but not beyond 128 bits. -/
  | wideInteger (value : Int)
  | number (value : Double)
  | text (value : String)
deriving DecidableEq, Repr

/-- Whether a text is one of the spellings of null. -/
def isNullWord (text : String) : Bool :=
  ["null", "Null", "NULL", "~"].contains text

/-- The truth value that a text spells. -/
def truthValue? (text : String) : Option Bool :=
  if ["true", "True", "TRUE"].contains text then some true
  else if ["false", "False", "FALSE"].contains text then some false
  else none

/-- Whether digits with a needless zero in front make a scalar a text. -/
def hasLeadingZero (characters : List Char) : Bool :=
  match (splitSign characters).2 with
  | '0' :: rest => !rest.isEmpty && rest.all Char.isDigit
  | _ => false

/-- The base that a letter after a zero announces. -/
def announcedBase? : Char → Option Nat
  | 'x' => some 16
  | 'o' => some 8
  | 'b' => some 2
  | _ => none

/-- The size of an integer without a sign, of some digits in some base. -/
def unsignedSize? (characters : List Char) : Option Nat :=
  match characters with
  | '0' :: letter :: digits =>
      match announcedBase? letter with
      | some base => numberIn? base digits
      | none => numberIn? 10 characters
  | _ => numberIn? 10 characters

/-- The size of an integer that is not negative. -/
def naturalOf? (characters : List Char) : Option Nat :=
  if hasLeadingZero characters then none
  else
    match characters with
    | '+' :: rest => unsignedSize? rest
    | _ => unsignedSize? characters

/-- The size of an integer that has a minus sign. -/
def negatedOf? (characters : List Char) : Option Nat :=
  if hasLeadingZero characters then none
  else
    match characters with
    | '-' :: rest => unsignedSize? rest
    | _ => none

/-- The integer that a scalar spells, as far as 128 bits reach. -/
def integerOf? (text : String) : Option Atom :=
  match naturalOf? text.toList, negatedOf? text.toList with
  | some size, _ =>
      if size < twoTo 64 then some (.integer size)
      else if size < twoTo 128 then some (.wideInteger size)
      else none
  | none, some size =>
      if size ≤ twoTo 63 then some (.integer (-size))
      else if size ≤ twoTo 127 then some (.wideInteger (-size))
      else none
  | none, none => none

/-- The number that a scalar spells; a plain one is not beyond all bounds. -/
def numberOf? (text : String) : Option Double :=
  let (sign, unsigned) :=
    match text.toList with
    | '+' :: rest => (some '+', rest)
    | '-' :: rest => (some '-', rest)
    | rest => (none, rest)
  if [".inf", ".Inf", ".INF"].contains (String.ofList unsigned) then
    some ⟨if sign = some '-' then 0xFFF0000000000000 else 0x7FF0000000000000⟩
  else if [".nan", ".NaN", ".NAN"].contains text then
    some ⟨0x7FF8000000000000⟩
  else
    match unsigned.head? with
    | some '+' | some '-' => none
    | _ =>
        ((Decimal.read text.toList).map Decimal.toDouble).filter fun number =>
          match number.magnitude with
          | .finite _ _ => true
          | _ => false

/-- What a plain scalar without a tag stands for. -/
def Atom.ofPlain (text : String) : Atom :=
  if text.isEmpty || isNullWord text then .null
  else
    match truthValue? text, integerOf? text with
    | some value, _ => .boolean value
    | none, some atom => atom
    | none, none =>
        if hasLeadingZero text.toList then .text text
        else
          match numberOf? text with
          | some double => .number double
          | none => .text text

namespace CoreTag

/-- What a scalar of the kind stands for, if it has the right form. -/
def atom? (tag : CoreTag) (text : String) : Option Atom :=
  match tag with
  | boolean => (truthValue? text).map .boolean
  | integer => integerOf? text
  | number => (numberOf? text).map .number
  | null => if isNullWord text then some .null else none

end CoreTag

/-- The text has not the form that the tag of a scalar asks for. -/
structure TagMismatch where
  text : String
  tag : CoreTag
deriving DecidableEq, Repr

/-- What a scalar stands for. -/
def Atom.ofScalar
    (style : ScalarStyle)
    (tag? : Option Tag)
    (text : String) :
    Except TagMismatch Atom :=
  match tag?.bind CoreTag.ofTag? with
  | some tag =>
      match tag.atom? text with
      | some atom => .ok atom
      | none => .error ⟨text, tag⟩
  | none =>
      if style = .plain && tag?.all Tag.isLocal then .ok (.ofPlain text)
      else .ok (.text text)

end SyntheticTable.Yaml
