/-!
# A seeded stream of random words

Sampling must be reproducible: the same seed gives the same choices on every
machine. The words come from the ChaCha stream cipher with twelve rounds; the seed
is spread over its key by a small congruential generator.

## Main definitions

* `WordStream` — the key, the number of the next block, and the words still left
  of the last one
* `WordStream.ofSeed` — the stream of a seed
* `WordStream.nextWord`, `WordStream.nextDouble` — the next 32 and the next 64
  bits

## Design notes

**Words in order.**  A block is sixteen words.  The stream is the words of block
0, then those of block 1, and so on; blocks are numbered with 64 bits, so the
stream repeats after `period` words.
-/

namespace SyntaxPaths.Randomness

/-- The sixteen words of a block. -/
abbrev Block := Vector UInt32 16

/-- The eight words of a key. -/
abbrev Key := Vector UInt32 8

/-- The word rotated to the left by `n` bits, for `n` from 1 to 31. -/
def rotateLeft (w n : UInt32) : UInt32 :=
  (w <<< n) ||| (w >>> (32 - n))

/-- The step that mixes four of the words of a block. -/
def quarterRound (block : Block) (a b c d : Fin 16) : Block :=
  let block := block.set a (block[a] + block[b])
  let block := block.set d (rotateLeft (block[d] ^^^ block[a]) 16)
  let block := block.set c (block[c] + block[d])
  let block := block.set b (rotateLeft (block[b] ^^^ block[c]) 12)
  let block := block.set a (block[a] + block[b])
  let block := block.set d (rotateLeft (block[d] ^^^ block[a]) 8)
  let block := block.set c (block[c] + block[d])
  block.set b (rotateLeft (block[b] ^^^ block[c]) 7)

/-- Two rounds: the columns of the block, taken as a square, and then its
diagonals. -/
def doubleRound (block : Block) : Block :=
  let block := quarterRound block 0 4 8 12
  let block := quarterRound block 1 5 9 13
  let block := quarterRound block 2 6 10 14
  let block := quarterRound block 3 7 11 15
  let block := quarterRound block 0 5 10 15
  let block := quarterRound block 1 6 11 12
  let block := quarterRound block 2 7 8 13
  quarterRound block 3 4 9 14

/-- A function applied `n` times. -/
def repeated (f : Block → Block) : (n : Nat) → Block → Block
  | 0, block => block
  | n + 1, block => repeated f n (f block)

/-- The number of double rounds. -/
def doubleRounds : Nat := 6

/-- The block from which the words of block number `count` are made: four
constants, the key, the number, and two zeros. -/
def initialBlock (key : Key) (count : UInt64) : Block :=
  #v[0x61707865, 0x3320646e, 0x79622d32, 0x6b206574,
    key[0], key[1], key[2], key[3], key[4], key[5], key[6], key[7],
    count.toUInt32, (count >>> 32).toUInt32, 0, 0]

/-- The words of block number `count`. -/
def keyBlock (key : Key) (count : UInt64) : Block :=
  let start := initialBlock key count
  (repeated doubleRound doubleRounds start).zipWith (· + ·) start

/-- A stream of words, at some point of its run. -/
structure WordStream where
  /-- What determines all the words. -/
  key : Key
  /-- The number of the block that comes next. -/
  count : UInt64
  /-- The words that are left of the block before. -/
  pending : List UInt32
  deriving DecidableEq

/-- After so many words a stream repeats. -/
def period : Nat := Nat.pow 2 68

/-- The generator that spreads a seed over a key: its next state. -/
def spread (state : UInt64) : UInt64 :=
  state * 6364136223846793005 + 11634580027462260723

/-- The word that the spreading generator gives in a state: some of the upper
bits, folded, and rotated to the right by an amount that the five topmost bits
say. -/
def spreadWord (state : UInt64) : UInt32 :=
  let folded := (((state >>> 18) ^^^ state) >>> 27).toUInt32
  let turn := (state >>> 59).toUInt32
  if turn = 0 then folded else rotateLeft folded (32 - turn)

/-- The first `n` words that the spreading generator gives after a state. -/
def spreadWords : (n : Nat) → (state : UInt64) → List UInt32
  | 0, _ => []
  | n + 1, state => spreadWord (spread state) :: spreadWords n (spread state)

namespace WordStream

/-- The stream of a key, at its beginning. -/
def ofKey (key : Key) : WordStream where
  key := key
  count := 0
  pending := []

/-- **The stream of a seed.** -/
def ofSeed (seed : UInt64) : WordStream :=
  let words := spreadWords 8 seed
  ofKey (Vector.ofFn fun i => words.getD i 0)

/-- The next word, with the stream behind it. -/
def nextWord (stream : WordStream) : UInt32 × WordStream :=
  match stream.pending with
  | word :: rest => (word, { stream with pending := rest })
  | [] =>
    let block := keyBlock stream.key stream.count
    (block[0], { stream with count := stream.count + 1, pending := block.toList.drop 1 })

/-- The next two words as one number, the first one being the lower half. -/
def nextDouble (stream : WordStream) : UInt64 × WordStream :=
  let (low, stream) := stream.nextWord
  let (high, stream) := stream.nextWord
  (low.toUInt64 ||| (high.toUInt64 <<< 32), stream)

end WordStream

end SyntaxPaths.Randomness
