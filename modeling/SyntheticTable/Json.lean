import SyntheticTable.Text.Quoted

/-!
# JSON documents

The part of JSON that reports need, written with one entry on a line and two
spaces for each level.
-/

namespace SyntheticTable

/-- A JSON document. -/
inductive Json where
  | number (value : Nat)
  | text (value : String)
  | list (items : List Json)
  | object (fields : List (String × Json))

namespace Json

/-- The start of a line at a depth. -/
def newLine (depth : Nat) : String :=
  "\n" ++ String.ofList (List.replicate (2 * depth) ' ')

/-- Lines between two brackets; nothing stands between them if there is none. -/
def bracketed
    (opening closing : String)
    (depth : Nat)
    (entries : List String) :
    String :=
  if entries.isEmpty then
    opening ++ closing
  else
    opening ++ newLine (depth + 1)
      ++ ("," ++ newLine (depth + 1)).intercalate entries
      ++ newLine depth ++ closing

mutual

/-- The text of a document that starts at a depth. -/
def prettyAt (depth : Nat) : Json → String
  | number value => toString value
  | text value => Text.jsonQuoted value
  | list items => bracketed "[" "]" depth (prettyItems (depth + 1) items)
  | object fields =>
      bracketed "\x7b" "\x7d" depth (prettyFields (depth + 1) fields)

/-- The texts of list items. -/
def prettyItems (depth : Nat) : List Json → List String
  | [] => []
  | item :: rest => item.prettyAt depth :: prettyItems depth rest

/-- The texts of object fields. -/
def prettyFields (depth : Nat) : List (String × Json) → List String
  | [] => []
  | (key, value) :: rest =>
      (Text.jsonQuoted key ++ ": " ++ value.prettyAt depth)
        :: prettyFields depth rest

end

/-- The text of a document. -/
def pretty (document : Json) : String :=
  document.prettyAt 0

end Json

end SyntheticTable
