/-!
# The random stream

Random bytes come from Threefry, a keyed function on pairs of 32-bit words: twenty rounds of
addition, rotation and exclusive or, with the key mixed in after every four. A stream is a key, and a
key splits into two. Drawing a byte splits the key of the stream: the first of the two is the key of the
rest of the stream, the second one yields the byte.
-/

namespace Chip8

/-- A pair of 32-bit words: a key, or a block to be enciphered under one. -/
structure WordPair where
  first : UInt32
  second : UInt32
deriving DecidableEq, Repr

namespace WordPair

/-- Rotates a word to the left by `places`, for `0 < places < 32`. -/
def rotateLeft (word places : UInt32) : UInt32 :=
  word <<< places ||| word >>> (32 - places)

/-- One round: add, rotate, exclusive or. -/
def mix (block : WordPair) (places : UInt32) : WordPair :=
  let sum := block.first + block.second
  ⟨sum, rotateLeft block.second places ^^^ sum⟩

/-- The three words that are mixed in by turns: both halves of the key and their parity. -/
def schedule (key : WordPair) (turn : Nat) : UInt32 :=
  match turn % 3 with
  | 0 => key.first
  | 1 => key.second
  | _ => key.first ^^^ key.second ^^^ 0x1BD11BDA

/-- Four rounds, then the key's words of that turn and the number of the turn are added. -/
def stage (key block : WordPair) (turn : Nat) : WordPair :=
  let rotations := if turn % 2 = 0 then [13, 15, 26, 6] else [17, 29, 16, 24]
  let mixed := rotations.foldl mix block
  ⟨mixed.first + schedule key (turn + 1),
    mixed.second + schedule key (turn + 2) + UInt32.ofNat (turn + 1)⟩

/-- The block enciphered under the key: five stages after the key is added. -/
def threefry (key block : WordPair) : WordPair :=
  [0, 1, 2, 3, 4].foldl (stage key)
    ⟨block.first + schedule key 0, block.second + schedule key 1⟩

end WordPair

/-- A random stream, given by its key. -/
abbrev RandomKey := WordPair

namespace RandomKey

/-- The key of a seed holds the seed's low 32 bits; a seed must fit in 64 bits with a sign. -/
def ofSeed? (seed : Int) : Option RandomKey :=
  if -0x8000000000000000 ≤ seed ∧ seed < 0x8000000000000000 then
    some ⟨0, UInt32.ofNat (seed % 0x100000000).toNat⟩
  else
    none

/-- The two keys that a key splits into: the blocks zero and one, enciphered under it. -/
def split (key : RandomKey) : RandomKey × RandomKey :=
  (key.threefry ⟨0, 0⟩, key.threefry ⟨0, 1⟩)

/-- The random word of a key: both halves of the enciphered block zero in one. -/
def word (key : RandomKey) : UInt32 :=
  let block := key.threefry ⟨0, 0⟩
  block.first ^^^ block.second

/-- A random number below `span`, which is above zero. Each half of the split key yields a word; the
first weighs `2 ^ 32`, and the sum is taken modulo the span. -/
def below (key : RandomKey) (span : UInt32) : UInt32 :=
  let (first, second) := key.split
  let half := 0x10000 % span
  let weight := half * half % span
  (first.word % span * weight + second.word % span) % span

/-- The key of the rest of the stream after one byte is drawn: the first half of the split key. -/
def next (key : RandomKey) : RandomKey :=
  key.split.1

/-- The byte that the stream yields first, drawn with the second half of the split key. -/
def byte (key : RandomKey) : UInt8 :=
  (key.split.2.below 256).toUInt8

end RandomKey

example : RandomKey.byte ⟨0, 7⟩ = 212 := by decide +kernel

example : RandomKey.next ⟨0, 7⟩ = ⟨3625411723, 1954958720⟩ := by decide +kernel

end Chip8
