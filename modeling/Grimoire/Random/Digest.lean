/-! # Digests

The SipHash function with one round for each word and three at the end, for the zero key.  A digest
derives a new seed from a seed and a label.
-/

namespace Grimoire

namespace Digest

structure State where
  a : UInt64
  b : UInt64
  c : UInt64
  d : UInt64
  deriving DecidableEq, Repr

def rotate (x : UInt64) (n : UInt64) : UInt64 := (x <<< n) ||| (x >>> (64 - n))

def start : State := ⟨0x736f6d6570736575, 0x646f72616e646f6d, 0x6c7967656e657261, 0x7465646279746573⟩

def round (s : State) : State :=
  let a := s.a + s.b
  let b := rotate s.b 13 ^^^ a
  let a := rotate a 32
  let c := s.c + s.d
  let d := rotate s.d 16 ^^^ c
  let a := a + d
  let d := rotate d 21 ^^^ a
  let c := c + b
  let b := rotate b 17 ^^^ c
  let c := rotate c 32
  ⟨a, b, c, d⟩

def absorb (s : State) (word : UInt64) : State :=
  let s := round { s with d := s.d ^^^ word }
  { s with a := s.a ^^^ word }

def wordOf : List UInt8 → UInt64
  | [] => 0
  | x :: xs => x.toUInt64 ||| (wordOf xs <<< 8)

def bytesOf (x : UInt64) : List UInt8 :=
  (List.range 8).map fun i => (x >>> (8 * i).toUInt64).toUInt8

/-- Takes in bytes, eight at a time; fewer than eight are left over for the last word. -/
def absorbAll (s : State) : List UInt8 → State × List UInt8
  | b0 :: b1 :: b2 :: b3 :: b4 :: b5 :: b6 :: b7 :: rest =>
    absorbAll (absorb s (wordOf [b0, b1, b2, b3, b4, b5, b6, b7])) rest
  | left => (s, left)

/-- The digest of some bytes.  The last word holds what is left over, and the count of all bytes in
its highest byte. -/
def ofBytes (bytes : List UInt8) : UInt64 :=
  let (s, left) := absorbAll start bytes
  let s := absorb s (wordOf left ||| (bytes.length.toUInt64 <<< 56))
  let s := round (round (round { s with c := s.c ^^^ 0xff }))
  s.a ^^^ s.b ^^^ s.c ^^^ s.d

def ofLabel (seed : UInt64) (label : String) : UInt64 :=
  ofBytes (bytesOf seed ++ label.toUTF8.toList ++ [0xff])

end Digest

end Grimoire
