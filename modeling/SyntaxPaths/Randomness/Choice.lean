import SyntaxPaths.Randomness.WordStream

/-!
# Choosing indices at random

A number below a bound is drawn by multiplying a random word with the bound and
keeping the upper half of the product.  Some words are rejected, since otherwise a
few results would be more likely than the others.  From such draws a set of
distinct indices is chosen, in one of three ways that suit different sizes.

## Main definitions

* `WordSize` — the two sizes of words that are drawn
* `draw` — a number below a bound, with a given zone of accepted words
* `drawBelow` — the same with the zone that is cheapest to compute
* `chooseByShuffle`, `chooseBySweep`, `chooseByRejection` — three ways to choose
* `Chooser`, `chooseIndices` — `amount` distinct indices below `length`

## Design notes

**Every draw counts.**  The choice is used as a set, but the words that it takes
from the stream decide about all later choices.  So a sweep over many indices also
draws for a shuffle of its result that nobody looks at.

**Rejection ends.**  A word may be rejected again and again, but not for longer
than the period of the stream: after that the same words come again, and the
search would never end.  The bound `period` is therefore no restriction, and what
is returned behind it is of no importance beyond being a number below the bound,
or an index not yet chosen.

**Costs.**  Which way is taken is a matter of estimated costs.  The estimate is made
in floating point of single precision, so two of its numbers are rounded where they
are large (`toSingle`).
-/

namespace SyntaxPaths.Randomness

/-- The two sizes of words that are drawn. -/
inductive WordSize where
  /-- Words of 32 bits. -/
  | single
  /-- Words of 64 bits. -/
  | double
  deriving DecidableEq, Repr

namespace WordSize

/-- The number of different words. -/
def count : WordSize → Nat
  | .single => Nat.pow 2 32
  | .double => Nat.pow 2 64

/-- The next word of a stream, as a number. -/
def next : WordSize → WordStream → Nat × WordStream
  | .single, stream =>
    let (word, stream) := stream.nextWord
    (word.toNat, stream)
  | .double, stream =>
    let (word, stream) := stream.nextDouble
    (word.toNat, stream)

end WordSize

/-- The zone of accepted words of 32 bits in the form that is cheapest to compute: the
bound, shifted to the left until it fills a word. -/
def shiftedZone (bound : Nat) : Nat :=
  bound * Nat.pow 2 (31 - bound.log2) - 1

/-- The largest zone of accepted words. -/
def widestZone (size : WordSize) (bound : Nat) : Nat :=
  size.count - 1 - (size.count - bound) % bound

/-- Draws words until the lower half of the product with the bound lies in the
zone, and yields the upper half; at most `tries` words are drawn. -/
def draw (size : WordSize) (bound zone : Nat) : (tries : Nat) → WordStream →
    Nat × WordStream
  | 0, stream => (0, stream)
  | tries + 1, stream =>
    let (word, stream) := size.next stream
    let product := word * bound
    if product % size.count ≤ zone then (product / size.count, stream)
    else draw size bound zone tries stream

/-- A number below a bound. -/
def drawBelow (bound : Nat) (stream : WordStream) : Nat × WordStream :=
  draw .single bound (shiftedZone bound) period stream

/-! ### By a shuffle -/

/-- Shuffles the places from `i` on, `steps` of them, each with a place behind it
or with itself. -/
def shuffleFrom : (steps i : Nat) → Array Nat → WordStream → Array Nat × WordStream
  | 0, _, indices, stream => (indices, stream)
  | steps + 1, i, indices, stream =>
    let (offset, stream) := drawBelow (indices.size - i) stream
    shuffleFrom steps (i + 1) (indices.swapIfInBounds i (i + offset)) stream

/-- Shuffles just the first `amount` places of all indices, and chooses what
stands there. -/
def chooseByShuffle (length amount : Nat) (stream : WordStream) : List Nat × WordStream :=
  let (indices, stream) := shuffleFrom amount 0 (Array.range length) stream
  (indices.toList.take amount, stream)

/-! ### By a sweep -/

/-- Runs over the bounds from `j` on, `steps` of them.  For each one a number up
to the bound is drawn and chosen; if that was chosen before, the bound itself is. -/
def sweepFrom : (steps j : Nat) → (chosen : List Nat) → WordStream → List Nat × WordStream
  | 0, _, chosen, stream => (chosen, stream)
  | steps + 1, j, chosen, stream =>
    let (t, stream) := drawBelow (j + 1) stream
    sweepFrom steps (j + 1) ((if t ∈ chosen then j else t) :: chosen) stream

/-- The draws of a shuffle of `n + 1` things, whose results are not used. -/
def drawShuffle : (n : Nat) → WordStream → WordStream
  | 0, stream => stream
  | n + 1, stream => drawShuffle n (drawBelow (n + 2) stream).2

/-- From so many indices on, a sweep draws for a shuffle as well. -/
def sweepShuffleAmount : Nat := 50

/-- One draw for each index that is chosen, without any table of all indices. -/
def chooseBySweep (length amount : Nat) (stream : WordStream) : List Nat × WordStream :=
  let (chosen, stream) := sweepFrom amount (length - amount) [] stream
  (chosen, if sweepShuffleAmount ≤ amount then drawShuffle (amount - 1) stream else stream)

/-! ### By rejection -/

/-- Draws numbers below `length` until one comes up that was not chosen before. -/
def drawFresh (size : WordSize) (length : Nat) (chosen : List Nat) : (tries : Nat) →
    WordStream → Nat × WordStream
  | 0, stream => (((List.range length).find? (· ∉ chosen)).getD 0, stream)
  | tries + 1, stream =>
    let (t, stream) := draw size length (widestZone size length) period stream
    if t ∈ chosen then drawFresh size length chosen tries stream else (t, stream)

/-- Adds `steps` fresh indices to those that are chosen. -/
def rejectFrom (size : WordSize) (length : Nat) : (steps : Nat) → (chosen : List Nat) →
    WordStream → List Nat × WordStream
  | 0, chosen, stream => (chosen, stream)
  | steps + 1, chosen, stream =>
    let (t, stream) := drawFresh size length chosen period stream
    rejectFrom size length steps (t :: chosen) stream

/-- Draws indices and rejects those that were chosen before. -/
def chooseByRejection (size : WordSize) (length amount : Nat) (stream : WordStream) :
    List Nat × WordStream :=
  rejectFrom size length amount [] stream

/-! ### The choice -/

/-- A number as single precision keeps it: rounded to 24 significant bits, and to the
even side where two results are equally near. -/
def toSingle (n : Nat) : Nat :=
  let unit := Nat.pow 2 (n.log2 - 23)
  let units := n / unit
  let rest := n % unit
  if 2 * rest < unit || (2 * rest == unit && units % 2 == 0) then units * unit
  else (units + 1) * unit

/-- From so many indices to choose on, the choice between the three ways changes. -/
def largeAmount : Nat := 163

/-- From so many indices to choose from on, a table of all of them costs more. -/
def largeLength : Nat := 500000

/-- Whether a table of all `length` indices is worth its cost when `amount` of
them are chosen.  The last number is 330 / 9 in single precision, times 2¹⁸. -/
def prefersShuffle (length amount : Nat) : Bool :=
  if amount < largeAmount then
    11 < amount &&
      if length < largeLength then 5 * length < (50 + 8 * amount) * amount
      else 45 * length < (350 + 8 * amount) * amount
  else if length < largeLength then length < 270 * amount
  else toSingle length * Nat.pow 2 18 < toSingle (9611947 * toSingle amount)

/-- A way to choose: `amount` indices below `length`, with the state of the source of
randomness behind the choice. -/
abbrev Chooser (σ : Type) : Type :=
  (length amount : Nat) → σ → List Nat × σ

/-- **A choice of `amount` distinct indices below `length`**, for
`amount ≤ length`.  A list with more indices than words of 32 bits needs larger
words, and a table of its indices is never worth the cost. -/
def chooseIndices : Chooser WordStream := fun length amount stream =>
  if WordSize.single.count ≤ length then chooseByRejection .double length amount stream
  else if prefersShuffle length amount then chooseByShuffle length amount stream
  else if amount < largeAmount then chooseBySweep length amount stream
  else chooseByRejection .single length amount stream

@[simp] theorem shuffleFrom_zero (i : Nat) (indices : Array Nat) (stream : WordStream) :
    shuffleFrom 0 i indices stream = (indices, stream) := rfl

@[simp] theorem sweepFrom_zero (j : Nat) (chosen : List Nat) (stream : WordStream) :
    sweepFrom 0 j chosen stream = (chosen, stream) := rfl

@[simp] theorem rejectFrom_zero (size : WordSize) (length : Nat) (chosen : List Nat)
    (stream : WordStream) : rejectFrom size length 0 chosen stream = (chosen, stream) := rfl

end SyntaxPaths.Randomness
