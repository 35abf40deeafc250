/-!
# Tags of YAML nodes

Escapes in a tag stand for bytes, so a tag is a sequence of bytes.  It is
written as a whole, or as a suffix to a stem that a handle stands for.  Each of
these parts ends at its first zero byte.

A tag of the language's own fixes the kind of a scalar.  A tag that starts with
an exclamation mark is one of the document's own.  It says nothing about what a
node stands for, but the value of the node keeps it as a label.
-/

namespace SyntheticTable.Yaml

/-- A tag. -/
structure Tag where
  bytes : List UInt8
deriving DecidableEq, Repr

namespace Tag

/-- The exclamation mark, which the document's own tags start with. -/
def mark : UInt8 := '!'.toUInt8

/-- The tag that is only a mark. -/
def lone : Tag := ⟨[mark]⟩

/-- The part of some bytes that counts: what stands before a zero byte. -/
def beforeZero (bytes : List UInt8) : List UInt8 :=
  bytes.takeWhile (· ≠ 0)

/-- The tag of a suffix to a stem. -/
def ofParts (stem suffix : List UInt8) : Tag :=
  ⟨beforeZero stem ++ beforeZero suffix⟩

/-- Whether the tag is one of the document's own. -/
def isLocal (tag : Tag) : Bool :=
  tag.bytes.head? = some mark

end Tag

/-- The kinds that a tag of the language's own can fix. -/
inductive CoreTag where
  | boolean
  | integer
  | number
  | null
deriving DecidableEq, Repr

namespace CoreTag

/-- The stem of the language's own tags. -/
def stem : List UInt8 := "tag:yaml.org,2002:".toUTF8.toList

/-- The kind with a name. -/
def ofSuffix? (suffix : List UInt8) : Option CoreTag :=
  if suffix = "bool".toUTF8.toList then some boolean
  else if suffix = "int".toUTF8.toList then some integer
  else if suffix = "float".toUTF8.toList then some number
  else if suffix = "null".toUTF8.toList then some null
  else none

/-- The kind that a tag fixes. -/
def ofTag? (tag : Tag) : Option CoreTag :=
  if tag.bytes.take stem.length = stem then
    ofSuffix? (tag.bytes.drop stem.length)
  else
    none

/-- The kind in words. -/
def description : CoreTag → String
  | boolean => "a boolean"
  | integer => "an integer"
  | number => "a float"
  | null => "null"

end CoreTag

end SyntheticTable.Yaml
