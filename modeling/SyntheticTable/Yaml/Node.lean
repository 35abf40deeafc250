import SyntheticTable.Yaml.Token

/-!
# Nodes of a YAML document

The tokens of a text are put together to a tree of nodes.  A node may carry the
name of an anchor, and an alias refers to a name.  A name has a number: how many
different names are known before the last node that carries it.  So a name that
is used again shares its number with the next new name.  A number stands for
the last node in the text whose name had it, which may come after the alias.

A document keeps the nodes with anchors beside its root, so that an alias may
also stand inside the node that it refers to.

A text holds one document at most.
-/

namespace SyntheticTable.Yaml

/-- A part of a document. -/
inductive Node where
  | scalar (style : ScalarStyle) (tag? : Option Tag) (text : String)
  | sequence (tag? : Option Tag) (items : List Node)
  | mapping (tag? : Option Tag) (entries : List (Node × Node))
  /-- Another mention of the node that the number of an anchor stands for. -/
  | alias (number : Nat)

namespace Node

/-- The node that stands where nothing is written. -/
def empty : Node := scalar .plain none ""

end Node

/-- A document. -/
structure Document where
  /-- The root; a text without any token has none. -/
  root? : Option Node
  /-- The nodes that carry anchors, in the order in which they start. -/
  anchored : Array (Option Node)
  /-- For each number of an anchor, which of these nodes it stands for. -/
  meanings : Array Nat
  /-- How many scalars, aliases and ends of collections there are. -/
  size : Nat

namespace Document

/-- The node that the number of an anchor stands for. -/
def meaning? (document : Document) (number : Nat) : Option Node := do
  let place ← document.meanings[number]?
  (document.anchored[place]?).join

/-- The node that is meant by a node: another one if it is an alias. -/
def resolve (document : Document) : Node → Node
  | .alias number => (document.meaning? number).getD .empty
  | node => node

end Document

/-- The state of putting tokens together. -/
structure Assembly where
  tokens : List Token
  /-- What the handles of tags stand for. -/
  handles : List (List Char × List UInt8)
  /-- The names of anchors with their numbers, each name once. -/
  names : List (List Char × Nat)
  /-- The nodes that carry anchors, none in place of one that is being read. -/
  anchored : Array (Option Node)
  meanings : Array Nat
  size : Nat

/-- A step of putting tokens together, which may fail. -/
abbrev Assemble := StateT Assembly Option

namespace Assemble

/-- The next token. -/
def peek : Assemble (Option Token) :=
  return (← get).tokens.head?

/-- Drops the next token. -/
def advance : Assemble Unit :=
  modify fun assembly => { assembly with tokens := assembly.tokens.drop 1 }

/-- Counts parts of the document. -/
def counted (parts : Nat) (node : Node) : Assemble Node := do
  modify fun assembly => { assembly with size := assembly.size + parts }
  return node

/-- A node where nothing is written. -/
def empty : Assemble Node := counted 1 .empty

/-- The stems that handles stand for where a document says nothing. -/
def standardHandles : List (List Char × List UInt8) :=
  [("!".toList, [Tag.mark]), ("!!".toList, CoreTag.stem)]

/-- The full tag of a handle and a suffix; without a handle there is no stem. -/
def fullTag (handle : List Char) (suffix : List UInt8) : Assemble Tag := do
  if handle.isEmpty then
    return .ofParts [] suffix
  else
    let handles := (← get).handles ++ standardHandles
    match handles.find? fun (known, _) => known = handle with
    | some (_, stem) => return .ofParts stem suffix
    | none => failure

/-- Reads the anchor and the tag before a node, in either order. -/
def properties : Assemble (Option (List Char) × Option Tag) := do
  match ← peek with
  | some (.anchor name) =>
      advance
      match ← peek with
      | some (.tag handle suffix) =>
          advance
          return (some name, some (← fullTag handle suffix))
      | _ => return (some name, none)
  | some (.tag handle suffix) =>
      advance
      let tag ← fullTag handle suffix
      match ← peek with
      | some (.anchor name) =>
          advance
          return (some name, some tag)
      | _ => return (none, some tag)
  | _ => return (none, none)

/--
Gives the name of an anchor its number, and the node that carries it a place,
which is returned.  The number has been given before, or is the least that has
not, because no number is left out.
-/
def register (name : List Char) : Assemble Nat := do
  let assembly ← get
  let number := assembly.names.length
  let place := assembly.anchored.size
  set
    { assembly with
      names :=
        (name, number) :: assembly.names.filter fun (known, _) => known ≠ name
      anchored := assembly.anchored.push none
      meanings :=
        if number < assembly.meanings.size then
          assembly.meanings.setIfInBounds number place
        else
          assembly.meanings.push place }
  return place

/-- Keeps the node that has a place among those with anchors. -/
def keep (place : Nat) (node : Node) : Assemble Unit :=
  modify fun assembly =>
    { assembly with
      anchored := assembly.anchored.setIfInBounds place (some node) }

mutual

/--
Reads a node.  Within blocks, block collections may stand here; as a key or
value of a block mapping, so may a sequence that is not indented further.
-/
def node (inBlock inMapping : Bool) : (steps : Nat) → Assemble Node
  | 0 => failure
  | steps + 1 => do
      match ← peek with
      | some (.alias name) =>
          advance
          match (← get).names.find? fun (known, _) => known = name with
          | some (_, number) => counted 1 (.alias number)
          | none => failure
      | _ =>
          match ← properties with
          | (some name, tag?) =>
              let place ← register name
              let read ← content inBlock inMapping true tag? steps
              keep place read
              return read
          | (none, tag?) => content inBlock inMapping tag?.isSome tag? steps

/-- Reads what follows the anchor and the tag of a node. -/
def content
    (inBlock inMapping hasProperties : Bool)
    (tag? : Option Tag) :
    (steps : Nat) → Assemble Node
  | 0 => failure
  | steps + 1 => do
      match ← peek, inBlock, inMapping with
      | some .blockEntry, _, true =>
          let items ← entriesOfMapping steps
          counted 2 (.sequence tag? items)
      | some (.scalar style text), _, _ =>
          advance
          counted 1 (.scalar style tag? (String.ofList text))
      | some .flowSequenceStart, _, _ =>
          advance
          let items ← flowItems true steps
          counted 2 (.sequence tag? items)
      | some .flowMappingStart, _, _ =>
          advance
          let entries ← flowEntries true steps
          counted 2 (.mapping tag? entries)
      | some .blockSequenceStart, true, _ =>
          advance
          let items ← blockItems steps
          counted 2 (.sequence tag? items)
      | some .blockMappingStart, true, _ =>
          advance
          let entries ← blockEntries steps
          counted 2 (.mapping tag? entries)
      | _, _, _ =>
          if hasProperties then
            counted 1 (.scalar .plain tag? "")
          else
            failure

/-- Reads the items of a block sequence and its end. -/
def blockItems : (steps : Nat) → Assemble (List Node)
  | 0 => failure
  | steps + 1 => do
      match ← peek with
      | some .blockEntry =>
          advance
          let item ←
            match ← peek with
            | some .blockEntry | some .blockEnd => empty
            | _ => node true false steps
          return item :: (← blockItems steps)
      | some .blockEnd =>
          advance
          return []
      | _ => failure

/-- Reads the items of a sequence that is indented no further than its key. -/
def entriesOfMapping : (steps : Nat) → Assemble (List Node)
  | 0 => failure
  | steps + 1 => do
      match ← peek with
      | some .blockEntry =>
          advance
          let item ←
            match ← peek with
            | some .blockEntry | some .key | some .value | some .blockEnd =>
                empty
            | _ => node true false steps
          return item :: (← entriesOfMapping steps)
      | _ => return []

/-- Reads a key or value of a block mapping, which may be missing. -/
def blockPart : (steps : Nat) → Assemble Node
  | 0 => failure
  | steps + 1 => do
      match ← peek with
      | some .key | some .value | some .blockEnd => empty
      | _ => node true true steps

/-- Reads the entries of a block mapping and its end. -/
def blockEntries : (steps : Nat) → Assemble (List (Node × Node))
  | 0 => failure
  | steps + 1 => do
      match ← peek with
      | some .key =>
          advance
          let key ← blockPart steps
          let value ←
            match ← peek with
            | some .value =>
                advance
                blockPart steps
            | _ => empty
          return (key, value) :: (← blockEntries steps)
      | some .blockEnd =>
          advance
          return []
      | _ => failure

/-- Reads a value of a flow collection, which may be missing. -/
def flowValue (closing : Token) : (steps : Nat) → Assemble Node
  | 0 => failure
  | steps + 1 => do
      match ← peek with
      | some .value =>
          advance
          match ← peek with
          | some token =>
              if token = .flowEntry ∨ token = closing then empty
              else node false false steps
          | none => failure
      | _ => empty

/-- Reads the items of a flow sequence and its end. -/
def flowItems (first : Bool) : (steps : Nat) → Assemble (List Node)
  | 0 => failure
  | steps + 1 => do
      match ← peek, first with
      | some .flowSequenceEnd, _ =>
          advance
          return []
      | some .flowEntry, false => advance
      | _, false => failure
      | _, true => pure ()
      match ← peek with
      | some .flowSequenceEnd =>
          advance
          return []
      | some .key =>
          advance
          let pair ← flowPair steps
          return pair :: (← flowItems false steps)
      | _ =>
          let item ← node false false steps
          return item :: (← flowItems false steps)

/--
Reads the only entry of a mapping that stands as an item of a flow sequence.
Where its key is missing, the token in its place is dropped.
-/
def flowPair : (steps : Nat) → Assemble Node
  | 0 => failure
  | steps + 1 => do
      let key ←
        match ← peek with
        | some .value | some .flowEntry | some .flowSequenceEnd =>
            advance
            empty
        | _ => node false false steps
      let value ← flowValue .flowSequenceEnd steps
      counted 2 (.mapping none [(key, value)])

/-- Reads the entries of a flow mapping and its end. -/
def flowEntries (first : Bool) : (steps : Nat) → Assemble (List (Node × Node))
  | 0 => failure
  | steps + 1 => do
      match ← peek, first with
      | some .flowMappingEnd, _ =>
          advance
          return []
      | some .flowEntry, false => advance
      | _, false => failure
      | _, true => pure ()
      match ← peek with
      | some .flowMappingEnd =>
          advance
          return []
      | some .key =>
          advance
          let key ←
            match ← peek with
            | some .value | some .flowEntry | some .flowMappingEnd => empty
            | _ => node false false steps
          let value ← flowValue .flowMappingEnd steps
          return (key, value) :: (← flowEntries false steps)
      | _ =>
          let key ← node false false steps
          let value ← empty
          return (key, value) :: (← flowEntries false steps)

end

/-- Whether a version of the language is known. -/
def isKnownVersion (major minor : Nat) : Bool :=
  major = 1 && (minor = 1 || minor = 2)

/-- Reads the directives before a document. -/
def directives (seenVersion : Bool) : (steps : Nat) → Assemble Unit
  | 0 => failure
  | steps + 1 => do
      match ← peek with
      | some (.versionDirective major minor) =>
          if seenVersion || !isKnownVersion major minor then
            failure
          else
            advance
            directives true steps
      | some (.tagDirective handle stem) =>
          let assembly ← get
          if assembly.handles.any fun (known, _) => known = handle then
            failure
          else
            set { assembly with handles := (handle, stem) :: assembly.handles }
            advance
            directives seenVersion steps
      | _ => return ()

/-- Whether nothing is written between the start of a document and a token. -/
def endsContent : Option Token → Bool
  | none | some .documentStart | some .documentEnd => true
  | some (.versionDirective _ _) | some (.tagDirective _ _) => true
  | _ => false

/-- Reads the root of the document, if there is a document. -/
def root (steps : Nat) : Assemble (Option Node) := do
  match ← peek with
  | none => return none
  | some .documentStart | some (.versionDirective _ _)
  | some (.tagDirective _ _) =>
      directives false steps
      match ← peek with
      | some .documentStart =>
          advance
          if endsContent (← peek) then return some (← empty)
          else return some (← node true false steps)
      | _ => failure
  | _ => return some (← node true false steps)

/-- Drops the marks at the end of the document. -/
def dropEnds : (steps : Nat) → Assemble Unit
  | 0 => return ()
  | steps + 1 => do
      match ← peek with
      | some .documentEnd =>
          advance
          dropEnds steps
      | _ => return ()

/-- Reads the only document. -/
def document (steps : Nat) : Assemble Document := do
  let root? ← root steps
  dropEnds steps
  match ← peek with
  | some _ => failure
  | none =>
      let { anchored, meanings, size, .. } ← get
      return { root?, anchored, meanings, size }

end Assemble

/-- The document of a text, unless the text is not well-formed. -/
def Document.ofText? (text : String) : Option Document := do
  let tokens ← tokens? text
  let start : Assembly :=
    { tokens
      handles := []
      names := []
      anchored := #[]
      meanings := #[]
      size := 0 }
  let (document, _) ← (Assemble.document (4 * tokens.length + 16)).run start
  return document

end SyntheticTable.Yaml
