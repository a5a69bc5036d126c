import Telemetry.Random.Source

/-!
# The seeded generator

A stream cipher in counter mode serves as a generator: twelve rounds over blocks
of sixteen 32-bit words, keyed by a seed.  The key is spread from the seed by a
congruential generator with a permuted output.
-/

namespace Telemetry

namespace Chacha

def rotateLeft (word : UInt32) (count : UInt32) : UInt32 :=
  (word <<< count) ||| (word >>> (32 - count))

/-- The state of a block: sixteen words. -/
abbrev Block := Vector UInt32 16

def quarterRound (a b c d : Fin 16) (block : Block) : Block :=
  let block := block.set a (block[a] + block[b])
  let block := block.set d (rotateLeft (block[d] ^^^ block[a]) 16)
  let block := block.set c (block[c] + block[d])
  let block := block.set b (rotateLeft (block[b] ^^^ block[c]) 12)
  let block := block.set a (block[a] + block[b])
  let block := block.set d (rotateLeft (block[d] ^^^ block[a]) 8)
  let block := block.set c (block[c] + block[d])
  block.set b (rotateLeft (block[b] ^^^ block[c]) 7)

/-- Mix the columns of a block, and then its diagonals. -/
def doubleRound (block : Block) : Block :=
  let block := quarterRound 0 4 8 12 block
  let block := quarterRound 1 5 9 13 block
  let block := quarterRound 2 6 10 14 block
  let block := quarterRound 3 7 11 15 block
  let block := quarterRound 0 5 10 15 block
  let block := quarterRound 1 6 11 12 block
  let block := quarterRound 2 7 8 13 block
  quarterRound 3 4 9 14 block

/-- The block a key and a counter start from: four constant words, the key, the
counter and an empty nonce. -/
def initialBlock (key : Vector UInt32 8) (counter : UInt64) : Block :=
  #v[0x61707865, 0x3320646e, 0x79622d32, 0x6b206574,
    key[0], key[1], key[2], key[3], key[4], key[5], key[6], key[7],
    counter.toUInt32, (counter >>> 32).toUInt32, 0, 0]

/-- The output block of a key and a counter, after twelve rounds. -/
def outputBlock (key : Vector UInt32 8) (counter : UInt64) : Block :=
  let start := initialBlock key counter
  let mixed := Nat.repeat doubleRound 6 start
  start.zipWith (· + ·) mixed

/-- One word of key from the state of the seed spreader, and its next state. -/
def spread (state : UInt64) : UInt32 × UInt64 :=
  let state := state * 6364136223846793005 + 11634580027462260723
  let mixed := (((state >>> 18) ^^^ state) >>> 27).toUInt32
  let count := (state >>> 59).toUInt32
  ((mixed >>> count) ||| (mixed <<< ((32 - count) % 32)), state)

def spreadWords (count : Nat) (state : UInt64) : List UInt32 :=
  match count with
  | 0 => []
  | count + 1 =>
      let (word, state) := spread state
      word :: spreadWords count state

def keyOfSeed (seed : UInt64) : Vector UInt32 8 :=
  let words := spreadWords 8 seed
  Vector.ofFn fun index => words.getD index 0

end Chacha

/-- A seeded generator: a key, and how many 64-bit words have been drawn. -/
structure SeededGenerator where
  key : Vector UInt32 8
  block : Chacha.Block
  drawn : Nat

namespace SeededGenerator

def ofSeed (seed : UInt64) : SeededGenerator :=
  let key := Chacha.keyOfSeed seed
  { key := key, block := Chacha.outputBlock key 0, drawn := 0 }

/-- The word at the current position of the block, low half first. -/
def word (generator : SeededGenerator) : UInt64 :=
  let position := 2 * (generator.drawn % 8)
  let low := generator.block[position]?.getD 0
  let high := generator.block[position + 1]?.getD 0
  low.toUInt64 ||| (high.toUInt64 <<< 32)

/-- Move on by one word; after the eighth word of a block the next block is
computed. -/
def advance (generator : SeededGenerator) : SeededGenerator :=
  let drawn := generator.drawn + 1
  { generator with
    drawn := drawn
    block :=
      if drawn % 8 = 0 then Chacha.outputBlock generator.key (UInt64.ofNat (drawn / 8))
      else generator.block }

instance : RandomSource SeededGenerator where
  next generator := (generator.word, generator.advance)
  patience _ := UInt64.size

end SeededGenerator

end Telemetry
