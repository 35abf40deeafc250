import SyntheticTable.Random.Keystream

/-!
# Random engine

An engine is a place in the keystream of a key.  Everything that is drawn is
read from there word by word, so a seed fixes all draws.  The block around the
place is kept, with the proof that it is the right one.
-/

namespace SyntheticTable

/-- The seed where none is asked for. -/
def defaultSeed : UInt32 := 13377331

/-- A place in a keystream. -/
structure Engine where
  key : Key
  /-- How many words have been read. -/
  position : Nat
  /-- The block in which the next word lies. -/
  block : Block
  block_eq : block = Block.keystream key (position / 16)

namespace Engine

@[ext]
theorem ext
    {left right : Engine}
    (keyEqual : left.key = right.key)
    (positionEqual : left.position = right.position) :
    left = right := by
  obtain ⟨key, position, block, blockEqual⟩ := left
  obtain ⟨otherKey, otherPosition, otherBlock, otherBlockEqual⟩ := right
  simp only at keyEqual positionEqual
  subst keyEqual positionEqual blockEqual otherBlockEqual
  rfl

/-- The engine that has read so many words of a key's keystream. -/
def start (key : Key) (position : Nat) : Engine where
  key := key
  position := position
  block := Block.keystream key (position / 16)
  block_eq := rfl

/-- The engine at the beginning of a seed's keystream. -/
def seeded (seed : UInt32) : Engine :=
  start (Key.ofSeed seed) 0

/-- The word that is read next. -/
def word (engine : Engine) : UInt32 :=
  engine.block[engine.position % 16]

/-- The engine after one word. -/
def advance (engine : Engine) : Engine :=
  if sameBlock : (engine.position + 1) / 16 = engine.position / 16 then
    { key := engine.key
      position := engine.position + 1
      block := engine.block
      block_eq := by rw [sameBlock]; exact engine.block_eq }
  else
    start engine.key (engine.position + 1)

@[simp]
theorem key_advance (engine : Engine) :
    engine.advance.key = engine.key := by
  unfold advance
  split <;> rfl

@[simp]
theorem position_advance (engine : Engine) :
    engine.advance.position = engine.position + 1 := by
  unfold advance
  split <;> rfl

end Engine

/-- A computation that reads from an engine. -/
abbrev Draw := StateM Engine

namespace Draw

/-- A word of 32 bits. -/
def word : Draw UInt32 :=
  modifyGet fun engine => (engine.word, engine.advance)

/-- A word of 64 bits: the low half is read first. -/
def long : Draw UInt64 := do
  let low ← word
  let high ← word
  return high.toUInt64 <<< 32 ||| low.toUInt64

/-- As many results of a draw as are asked for, put after the given ones. -/
def repeatInto (draw : Draw α) : Nat → Array α → Draw (Array α)
  | 0, results => pure results
  | count + 1, results => do
      let result ← draw
      repeatInto draw count (results.push result)

/-- As many results of a draw as are asked for, in the order drawn. -/
def repeated (count : Nat) (draw : Draw α) : Draw (Array α) :=
  repeatInto draw count #[]

/-- The bytes of a word, least significant first. -/
def bytesOf (word : UInt32) : List UInt8 :=
  [word.toUInt8, (word >>> 8).toUInt8, (word >>> 16).toUInt8,
    (word >>> 24).toUInt8]

/-- A number of bytes.  What is left of the last word is dropped. -/
def bytes (count : Nat) : Draw (List UInt8) := do
  let words ← repeated ((count + 3) / 4) word
  return (words.toList.flatMap bytesOf).take count

/--
How often a trial may be rejected.  The cut-off is not part of the methods of
sampling, which reject without end; it makes every draw finite.  Each sampler
accepts a fair share of its trials, so in practice it is never reached.
-/
def trialLimit : Nat := 1_000_000

/--
Repeats a trial until it accepts, and gives up with a fallback, which is no
sample of the method.
-/
def acceptedWithin (trial : Draw (Option α)) (fallback : α) : Nat → Draw α
  | 0 => pure fallback
  | trials + 1 => do
      match ← trial with
      | some result => pure result
      | none => acceptedWithin trial fallback trials

/--
Repeats a trial until it accepts.  Below the cut-off this is rejection sampling;
the fallback beyond it stands for a loop that would go on.
-/
def accepted (trial : Draw (Option α)) (fallback : α) : Draw α :=
  acceptedWithin trial fallback trialLimit

end Draw

end SyntheticTable
