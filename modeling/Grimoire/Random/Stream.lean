import Grimoire.Number.Scalar
import Grimoire.Random.Block
import Grimoire.Random.Digest

/-! # Random streams

A stream is a seed and the count of words drawn from it, so two streams that are equal go on alike.
`Stream.between` draws a whole number from an interval: a word is refused when it falls into the last,
incomplete share of the words, so that every number of the interval is equally likely.
-/

namespace Grimoire

structure Stream where
  seed : UInt64
  drawn : Nat
  deriving DecidableEq, Repr

namespace Stream

def ofSeed (seed : UInt64) : Stream := ⟨seed, 0⟩

/-- The stream that a label derives from a seed, however much was drawn before. -/
def derive (s : Stream) (label : String) : Stream := ofSeed (Digest.ofLabel s.seed label)

/-- The word at a place of a seed's stream: two words of a block, the lower one first. -/
def wordAt (seed : UInt64) (place : Nat) : UInt64 :=
  let words := Block.words (Block.key seed) (place / 8).toUInt64
  let low := words.get ⟨2 * (place % 8), by omega⟩
  let high := words.get ⟨2 * (place % 8) + 1, by omega⟩
  low.toUInt64 ||| (high.toUInt64 <<< 32)

def next (s : Stream) : UInt64 × Stream := (wordAt s.seed s.drawn, { s with drawn := s.drawn + 1 })

def unit {α : Type} [Scalar α] (s : Stream) : α × Stream :=
  let (word, s) := s.next
  (Scalar.ratio (word.toNat / twoTo 11) (twoTo 53), s)

/-- The words that are refused before a draw settles for the lower bound.  Fewer than half of all
words are refused, so no draw comes near. -/
def patience : Nat := 4096

/-- Draws until a word is accepted: `size` numbers share the words, and the lower half of the product
tells whether a word is in a complete share. -/
def drawBelow (size zone : Nat) : Nat → Stream → Nat × Stream
  | 0, s => (0, s)
  | more + 1, s =>
    let (word, s) := s.next
    let product := word.toNat * size
    if product % twoTo 64 ≤ zone then (product / twoTo 64, s) else drawBelow size zone more s

def signed (word : UInt64) : Int :=
  if word.toNat < twoTo 63 then word.toNat else (word.toNat : Int) - twoTo 64

/-- A whole number from `low` to `high`, both of them 64-bit numbers with a sign and in order. -/
def drawOrdered (low high : Int) (s : Stream) : Int × Stream :=
  let size := (high - low + 1).toNat % twoTo 64
  if size = 0 then
    let (word, s) := s.next
    (signed word, s)
  else
    let zone := size * twoTo (63 - Nat.log2 size) - 1
    let (offset, s) := drawBelow size zone patience s
    (low + offset, s)

/-- A whole number between two 64-bit numbers with a sign, given in either order. -/
def between (a b : Int) (s : Stream) : Int × Stream :=
  if a ≤ b then drawOrdered a b s else drawOrdered b a s

end Stream

end Grimoire
