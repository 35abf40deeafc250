/-!
# Keystream

The words that every draw is made from: a ChaCha keystream of eight rounds
with a zero nonce, cut into blocks of sixteen words.  A seed of 32 bits is
first stretched to a key by a congruential generator.
-/

namespace SyntheticTable

/-- The key of a keystream. -/
abbrev Key := Vector UInt32 8

/-- Sixteen words: a block of a keystream or the state behind one. -/
abbrev Block := Vector UInt32 16

namespace Key

/-- One step of the congruential generator behind the key words. -/
def step (state : UInt64) : UInt64 :=
  state * 6364136223846793005 + 11634580027462260723

/-- The bits of a word turned to the right. -/
def rotateRight (word count : UInt32) : UInt32 :=
  word >>> count ||| word <<< ((32 - count) % 32)

/-- The key word that a state of the generator gives. -/
def wordOf (state : UInt64) : UInt32 :=
  rotateRight (((state >>> 18) ^^^ state) >>> 27).toUInt32
    (state >>> 59).toUInt32

/-- The key of a seed. -/
def ofSeed (seed : UInt32) : Key :=
  Vector.ofFn fun index => wordOf (Nat.repeat step (index + 1) seed.toUInt64)

end Key

namespace Block

/-- The bits of a word turned to the left. -/
def rotateLeft (word count : UInt32) : UInt32 :=
  word <<< count ||| word >>> (32 - count)

/-- Mixes four words of a state. -/
def quarterRound (a b c d : Fin 16) (state : Block) : Block :=
  let first := state[a] + state[b]
  let fourth := rotateLeft (state[d] ^^^ first) 16
  let third := state[c] + fourth
  let second := rotateLeft (state[b] ^^^ third) 12
  let first := first + second
  let fourth := rotateLeft (fourth ^^^ first) 8
  let third := third + fourth
  let second := rotateLeft (second ^^^ third) 7
  (((state.set a first).set b second).set c third).set d fourth

/-- Mixes the columns of a state and then its diagonals. -/
def doubleRound (state : Block) : Block :=
  state
    |> quarterRound 0 4 8 12
    |> quarterRound 1 5 9 13
    |> quarterRound 2 6 10 14
    |> quarterRound 3 7 11 15
    |> quarterRound 0 5 10 15
    |> quarterRound 1 6 11 12
    |> quarterRound 2 7 8 13
    |> quarterRound 3 4 9 14

/-- The state before mixing: constants, key, block number and a zero nonce. -/
def initial (key : Key) (number : UInt64) : Block :=
  #v[0x61707865, 0x3320646E, 0x79622D32, 0x6B206574,
    key[0], key[1], key[2], key[3], key[4], key[5], key[6], key[7],
    number.toUInt32, (number >>> 32).toUInt32, 0, 0]

/-- One block of the keystream of a key. -/
def keystream (key : Key) (number : Nat) : Block :=
  let start := initial key (.ofNat number)
  (Nat.repeat doubleRound 4 start).zipWith (· + ·) start

end Block

end SyntheticTable
