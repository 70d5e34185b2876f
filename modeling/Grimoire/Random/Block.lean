/-! # Keystream blocks

The ChaCha permutation with eight rounds.  A key and the number of a block give sixteen words; blocks
do not depend on each other, so any word of the stream can be had without the ones before it.
-/

namespace Grimoire

namespace Block

abbrev State := Vector UInt32 16

def rotate (x : UInt32) (n : UInt32) : UInt32 := (x <<< n) ||| (x >>> (32 - n))

def quarter (s : State) (a b c d : Fin 16) : State :=
  let s := s.set a (s[a] + s[b])
  let s := s.set d (rotate (s[d] ^^^ s[a]) 16)
  let s := s.set c (s[c] + s[d])
  let s := s.set b (rotate (s[b] ^^^ s[c]) 12)
  let s := s.set a (s[a] + s[b])
  let s := s.set d (rotate (s[d] ^^^ s[a]) 8)
  let s := s.set c (s[c] + s[d])
  s.set b (rotate (s[b] ^^^ s[c]) 7)

def doubleRound (s : State) : State :=
  let s := quarter s 0 4 8 12
  let s := quarter s 1 5 9 13
  let s := quarter s 2 6 10 14
  let s := quarter s 3 7 11 15
  let s := quarter s 0 5 10 15
  let s := quarter s 1 6 11 12
  let s := quarter s 2 7 8 13
  quarter s 3 4 9 14

/-- The state that a block starts from: four constants, the key, the block's number and zeros. -/
def initial (key : Vector UInt32 8) (number : UInt64) : State :=
  #v[0x61707865, 0x3320646e, 0x79622d32, 0x6b206574,
     key[0], key[1], key[2], key[3], key[4], key[5], key[6], key[7],
     number.toUInt32, (number >>> 32).toUInt32, 0, 0]

def words (key : Vector UInt32 8) (number : UInt64) : State :=
  let start := initial key number
  let mixed := doubleRound (doubleRound (doubleRound (doubleRound start)))
  Vector.zipWith (· + ·) mixed start

def spread (state : UInt64) : UInt64 := state * 6364136223846793005 + 11634580027462260723

def keyWord (state : UInt64) : UInt32 :=
  let x := (((state >>> 18) ^^^ state) >>> 27).toUInt32
  let turn := (state >>> 59).toUInt32
  (x >>> turn) ||| (x <<< ((32 - turn) % 32))

def key (seed : UInt64) : Vector UInt32 8 :=
  let s1 := spread seed
  let s2 := spread s1
  let s3 := spread s2
  let s4 := spread s3
  let s5 := spread s4
  let s6 := spread s5
  let s7 := spread s6
  let s8 := spread s7
  #v[keyWord s1, keyWord s2, keyWord s3, keyWord s4, keyWord s5, keyWord s6, keyWord s7, keyWord s8]

end Block

end Grimoire
