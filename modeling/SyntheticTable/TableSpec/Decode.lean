import SyntheticTable.TableSpec
import SyntheticTable.Text.Quoted
import SyntheticTable.Yaml.Value

/-!
# Specifications read from YAML

The root of the document is a mapping from field names to values.  Its entries
are read in the order in which they are written, and the first one whose value
does not fit decides the error; a missing field is noticed only when all the
others fit.  Names that are not known are passed over.
-/

namespace SyntheticTable

open Yaml (Atom CoreTag Document Node ScalarStyle Tag TagMismatch)

/-- What was found instead of what was wanted. -/
inductive Found where
  | null
  | boolean (value : Bool)
  | integer (value : Int)
  /-- An integer that takes more than 64 bits. -/
  | wideInteger (value : Int)
  | number (value : Double)
  | text (value : String)
  | sequence
  | mapping
deriving DecidableEq, Repr

namespace Found

/-- What an atom is found to be. -/
def ofAtom : Atom → Found
  | .null => null
  | .boolean value => boolean value
  | .integer value => integer value
  | .wideInteger value => wideInteger value
  | .number value => number value
  | .text value => text value

/-- What was found in words. -/
def description : Found → String
  | null => "unit value"
  | boolean value => "boolean `" ++ (if value then "true" else "false") ++ "`"
  | integer value => "integer `" ++ toString value ++ "`"
  | wideInteger value =>
      "integer `" ++ toString value ++ "` as "
        ++ (if value < 0 then "i128" else "u128")
  | number value =>
      let layout : NumberLayout :=
        match value.magnitude with
        | .finite _ _ => .pointedProse
        | _ => .prose
      "floating point `" ++ value.text layout ++ "`"
  | text value => "string " ++ Text.shown value
  | sequence => "sequence"
  | mapping => "map"

end Found

/-- What a field asks for. -/
inductive Wanted where
  | count
  | bytes
  | word
  | frequency
  | types
  | typeName
  | fieldName
  | params
  | spec
deriving DecidableEq, Repr

/-- What is wanted in words. -/
def Wanted.description : Wanted → String
  | count => "usize"
  | bytes => "u64"
  | word => "u32"
  | frequency => "f32"
  | types => "a sequence"
  | typeName => "a string"
  | fieldName => "field identifier"
  | params => "struct ColumnParams"
  | spec => "struct GenerationSpec"

/-- Why a document is not a specification. -/
inductive DecodeFault where
  | unknownType (error : UnknownType)
  | invalidType (found : Found) (wanted : Wanted)
  /-- A whole number is too great for what is wanted. -/
  | tooGreat (value : Nat) (wanted : Wanted)
  | tagMismatch (error : TagMismatch)
  | missingField (name : String)
  | duplicateField (name : String)
deriving DecidableEq, Repr

/-- The wording of a fault. -/
def DecodeFault.message : DecodeFault → String
  | unknownType error => error.message
  | invalidType found wanted =>
      "invalid type: " ++ found.description ++ ", expected "
        ++ wanted.description
  | tooGreat value wanted =>
      "invalid value: integer `" ++ toString value ++ "`, expected "
        ++ wanted.description
  | tagMismatch error =>
      "invalid value: string " ++ Text.shown error.text ++ ", expected "
        ++ error.tag.description
  | missingField name => "missing field `" ++ name ++ "`"
  | duplicateField name => "duplicate field `" ++ name ++ "`"

/-- A step from a node to one of its parts. -/
inductive PathStep where
  | field (name : String)
  /-- A value whose key is written as an alias. -/
  | unnamed
  | item (index : Nat)
deriving DecidableEq, Repr

/-- The text of a path with one more step. -/
def PathStep.after (path : String) : PathStep → String
  | field name => (if path.isEmpty then "" else path ++ ".") ++ name
  | unnamed => (if path.isEmpty then "" else path ++ ".") ++ "?"
  | item index => path ++ "[" ++ toString index ++ "]"

/-- A fault and where it was found, as a path from the root. -/
structure DecodeError where
  path : List PathStep
  fault : DecodeFault
deriving DecidableEq, Repr

/-- The wording of the error. -/
def DecodeError.message (error : DecodeError) : String :=
  let path := error.path.foldl PathStep.after ""
  (if path.isEmpty then "" else path ++ ": ") ++ error.fault.message

/-- A value read at a path, or an error. -/
abbrev Decoded := Except DecodeError

namespace Decode

/-- Fails at a path. -/
def fail {α : Type} (path : List PathStep) (fault : DecodeFault) : Decoded α :=
  .error ⟨path, fault⟩

/-- The error for a node that is not what is wanted. -/
def unfit
    {α : Type}
    (path : List PathStep)
    (wanted : Wanted) :
    Node → Decoded α
  | .scalar style tag? text =>
      match Atom.ofScalar style tag? text with
      | .ok atom => fail path (.invalidType (.ofAtom atom) wanted)
      | .error error => fail path (.tagMismatch error)
  | .sequence _ _ => fail path (.invalidType .sequence wanted)
  | .mapping _ _ => fail path (.invalidType .mapping wanted)
  | .alias _ => fail path (.invalidType .null wanted)

/--
Whether a scalar may be read as a number: it is plain, or it is a literal block
with the tag of that kind of numbers.
-/
def mayBe (tag : CoreTag) (style : ScalarStyle) (tag? : Option Tag) : Bool :=
  style = .plain
    || (style = .literal && (tag?.bind CoreTag.ofTag?) = some tag)

/-- Reads a whole number below a bound. -/
def natural
    (document : Document)
    (path : List PathStep)
    (wanted : Wanted)
    (bound : Nat)
    (node : Node) :
    Decoded Nat :=
  match document.resolve node with
  | .scalar style tag? text =>
      match mayBe .integer style tag?, Yaml.naturalOf? text.toList with
      | true, some value =>
          if value < bound then .ok value
          else if value < twoTo 64 then fail path (.tooGreat value wanted)
          else unfit path wanted (.scalar style tag? text)
      | _, _ => unfit path wanted (.scalar style tag? text)
  | node => unfit path wanted node

/-- Reads a null frequency: a number of 64 bits, rounded to 32. -/
def frequency
    (document : Document)
    (path : List PathStep)
    (node : Node) :
    Decoded Single :=
  match document.resolve node with
  | .scalar style tag? text =>
      match mayBe .number style tag?, Yaml.numberOf? text with
      | true, some value => .ok value.toSingle
      | _, _ => unfit path .frequency (.scalar style tag? text)
  | node => unfit path .frequency node

/-- Whether a scalar stands for nothing when it is the value of an option. -/
def isNothing (text : String) : Bool :=
  text.isEmpty || Yaml.isNullWord text

/-- Reads an optional seed.  `outer` is the path of the mapping around it. -/
def seed
    (document : Document)
    (outer path : List PathStep)
    (node : Node) :
    Decoded (Option UInt32) := do
  let given : Decoded (Option UInt32) := do
    let value ← natural document path .word (twoTo 32) node
    return some (.ofNat value)
  match document.resolve node with
  | .scalar .plain none text => if isNothing text then return none else given
  | .scalar .plain (some tag) text =>
      if CoreTag.ofTag? tag = some .null then
        if Yaml.isNullWord text then return none
        else fail outer (.tagMismatch ⟨text, .null⟩)
      else
        given
  | _ => given

/-- Reads one name of a kind, which may be any scalar. -/
def typeName
    (document : Document)
    (path : List PathStep)
    (index : Nat)
    (node : Node) :
    Decoded SemanticType :=
  match document.resolve node with
  | .scalar _ _ text =>
      match SemanticType.ofName text with
      | .ok type => .ok type
      | .error error => fail path (.unknownType error)
  | node => unfit (path ++ [.item index]) .typeName node

/-- Reads names of kinds, the first of which has an index. -/
def typeNames
    (document : Document)
    (path : List PathStep) :
    (index : Nat) → List Node → Decoded (List SemanticType)
  | _, [] => .ok []
  | index, node :: rest => do
      let type ← typeName document path index node
      return type :: (← typeNames document path (index + 1) rest)

/-- Reads a list of kinds; nothing counts as the empty list. -/
def types
    (document : Document)
    (path : List PathStep)
    (node : Node) :
    Decoded (List SemanticType) :=
  match document.resolve node with
  | .sequence _ items => typeNames document path 0 items
  | .scalar style tag? text =>
      if style = .plain && text.isEmpty then .ok []
      else unfit path .types (.scalar style tag? text)
  | node => unfit path .types node

/-- The entries of a mapping; nothing counts as the empty mapping. -/
def entries
    (document : Document)
    (path : List PathStep)
    (wanted : Wanted)
    (node : Node) :
    Decoded (List (Node × Node)) :=
  match document.resolve node with
  | .mapping _ entries => .ok entries
  | .scalar style tag? text =>
      if style = .plain && text.isEmpty then .ok []
      else unfit path wanted (.scalar style tag? text)
  | node => unfit path wanted node

/-- The name that a key spells, and the step to its value. -/
def keyName
    (document : Document)
    (path : List PathStep)
    (key : Node) :
    Decoded (String × PathStep) :=
  match key, document.resolve key with
  | .alias _, .scalar _ _ name => .ok (name, .unnamed)
  | _, .scalar _ _ name => .ok (name, .field name)
  | _, node => unfit path .fieldName node

/-- A field that is read now, unless it was read before. -/
def once
    {α : Type}
    (path : List PathStep)
    (name : String)
    (before : Option α)
    (now : Decoded α) :
    Decoded (Option α) :=
  match before with
  | some _ => fail path (.duplicateField name)
  | none => now.map some

/-- The fields of column parameters that were read so far. -/
structure ParamsDraft where
  nullFrequency? : Option Single
  cardinality? : Option Nat
  averageRunLength? : Option Nat

/-- Column parameters with the usual values for what was not read. -/
def ParamsDraft.complete (draft : ParamsDraft) : ColumnParams where
  nullFrequency :=
    draft.nullFrequency?.getD ColumnParams.standard.nullFrequency
  cardinality :=
    (draft.cardinality?.map .ofNat).getD ColumnParams.standard.cardinality
  averageRunLength :=
    (draft.averageRunLength?.map .ofNat).getD
      ColumnParams.standard.averageRunLength

/-- Reads one entry of the column parameters. -/
def paramsEntry
    (document : Document)
    (path : List PathStep)
    (draft : ParamsDraft)
    (entry : Node × Node) :
    Decoded ParamsDraft := do
  let (name, step) ← keyName document path entry.1
  let inner := path ++ [step]
  if name = "null_frequency" then
    let nullFrequency? ←
      once path name draft.nullFrequency? (frequency document inner entry.2)
    return { draft with nullFrequency? }
  else if name = "cardinality" then
    let cardinality? ←
      once path name draft.cardinality?
        (natural document inner .count (twoTo 64) entry.2)
    return { draft with cardinality? }
  else if name = "avg_run_length" then
    let averageRunLength? ←
      once path name draft.averageRunLength?
        (natural document inner .word (twoTo 32) entry.2)
    return { draft with averageRunLength? }
  else
    return draft

/-- Reads column parameters. -/
def params
    (document : Document)
    (path : List PathStep)
    (node : Node) :
    Decoded ColumnParams := do
  let entries ← entries document path .params node
  let draft ← entries.foldlM (paramsEntry document path) ⟨none, none, none⟩
  return draft.complete

/-- The fields of a specification that were read so far. -/
structure SpecDraft where
  types? : Option (List SemanticType)
  columnCount? : Option Nat
  tableBytes? : Option Nat
  seed? : Option (Option UInt32)
  params? : Option ColumnParams

/-- The specification, if no field is missing that has no usual value. -/
def SpecDraft.complete (draft : SpecDraft) : Decoded TableSpec :=
  match draft.types?, draft.columnCount?, draft.tableBytes? with
  | none, _, _ => fail [] (.missingField "types")
  | _, none, _ => fail [] (.missingField "column_count")
  | _, _, none => fail [] (.missingField "table_bytes")
  | some types, some columnCount, some tableBytes =>
      .ok
        { types
          columnCount := .ofNat columnCount
          tableBytes := .ofNat tableBytes
          seed? := draft.seed?.join
          params := draft.params?.getD ColumnParams.standard }

/-- Reads one entry of a specification. -/
def specEntry
    (document : Document)
    (draft : SpecDraft)
    (entry : Node × Node) :
    Decoded SpecDraft := do
  let (name, step) ← keyName document [] entry.1
  let path := [step]
  if name = "types" then
    let types? ← once [] name draft.types? (types document path entry.2)
    return { draft with types? }
  else if name = "column_count" then
    let columnCount? ←
      once [] name draft.columnCount?
        (natural document path .count (twoTo 64) entry.2)
    return { draft with columnCount? }
  else if name = "table_bytes" then
    let tableBytes? ←
      once [] name draft.tableBytes?
        (natural document path .bytes (twoTo 64) entry.2)
    return { draft with tableBytes? }
  else if name = "seed" then
    let seed? ← once [] name draft.seed? (seed document [] path entry.2)
    return { draft with seed? }
  else if name = "params" then
    let params? ← once [] name draft.params? (params document path entry.2)
    return { draft with params? }
  else
    return draft

/-- Reads the specification that a document holds. -/
def spec (document : Document) : Decoded TableSpec := do
  let entries ← entries document [] .spec (document.root?.getD .empty)
  let draft ←
    entries.foldlM (specEntry document) ⟨none, none, none, none, none⟩
  draft.complete

end Decode

/-- Why a text is not a specification. -/
inductive YamlError where
  /-- The text is not a YAML document. -/
  | malformed
  | decode (error : DecodeError)
deriving DecidableEq, Repr

/-- The wording of the error; what is malformed is not described further. -/
def YamlError.message : YamlError → String
  | malformed => "malformed document"
  | decode error => error.message

/-- Reads a specification. -/
def TableSpec.ofYaml (text : String) : Except YamlError TableSpec :=
  match Document.ofText? text with
  | none => .error .malformed
  | some document => (Decode.spec document).mapError .decode

end SyntheticTable
