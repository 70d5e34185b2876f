import Grimoire.Number.Power

/-! # Doubles as binary fractions

A finite double is `± mantissa · 2 ^ exponent` with a mantissa below `2 ^ 53`.  `Binary.ofFloat?`
reads the two numbers off the bits, and `Binary.round` goes back: it takes any such number to the
nearest double, a tie to the even mantissa.  Everything else about doubles that the library decides
for itself (digits, whole parts, lengths, angles) is stated on these two numbers.
-/

namespace Grimoire

/-- The number `± mantissa · 2 ^ exponent`. -/
structure Binary where
  negative : Bool
  mantissa : Nat
  exponent : Int
  deriving DecidableEq, Repr

namespace Binary

/-- The exponent that the least significant bit of a subnormal double stands for. -/
def leastExponent : Int := -1074

def ofFloat? (x : Float) : Option Binary :=
  let bits := x.toBits.toNat
  let negative := twoTo 63 ≤ bits
  let biased : Nat := bits / twoTo 52 % twoTo 11
  let fraction := bits % twoTo 52
  if biased = 2047 then none
  else if biased = 0 then some ⟨negative, fraction, leastExponent⟩
  else some ⟨negative, twoTo 52 + fraction, (biased : Int) - 1075⟩

/-- `n / 2 ^ k` to the nearest whole number, a tie to the even one. -/
def halveEven (n k : Nat) : Nat :=
  let high := n / twoTo k
  let low := 2 * (n % twoTo k)
  if twoTo k < low ∨ (low = twoTo k ∧ high % 2 = 1) then high + 1 else high

/-- The bits of the double nearest to `mantissa · 2 ^ exponent`, the sign bit left out.

The last bit kept stands for `2 ^ e`, where `e` leaves 53 bits and is never below
`leastExponent`.  Adding the rounded mantissa to the exponent field carries into it, so the hidden
bit, a mantissa rounded up to `2 ^ 53` and the subnormal range need no case of their own. -/
def magnitudeBits (mantissa : Nat) (exponent : Int) : Nat :=
  if mantissa = 0 then 0 else
    let e := max (exponent + (Nat.log2 mantissa : Int) - 52) leastExponent
    let kept :=
      if e ≤ exponent then mantissa * twoTo (exponent - e).toNat
      else halveEven mantissa (e - exponent).toNat
    min ((e - leastExponent).toNat * twoTo 52 + kept) (2047 * twoTo 52)

/-- The nearest double, a tie to the even mantissa; too large a number becomes an infinity. -/
def round (d : Binary) : Float :=
  Float.ofBits (UInt64.ofNat ((if d.negative then twoTo 63 else 0) + magnitudeBits d.mantissa d.exponent))

/-- A binary number plus a little that is less than its last bit: one more bit, which is
set, stands for the little, so that rounding sees which side of a tie the number is on. -/
def withSticky (d : Binary) (inexact : Bool) : Binary :=
  { d with mantissa := 2 * d.mantissa + (if inexact then 1 else 0), exponent := d.exponent - 1 }

/-- The double nearest to `± num / den`, for `den` other than zero. -/
def ofRatio (negative : Bool) (num den : Nat) : Float :=
  let shift := 66 + Nat.log2 den - Nat.log2 num
  let scaled := num * twoTo shift
  round (withSticky ⟨negative, scaled / den, -shift⟩ (scaled % den != 0))

def wholePart (d : Binary) : Nat :=
  if 0 ≤ d.exponent then d.mantissa * twoTo d.exponent.toNat else d.mantissa / twoTo (-d.exponent).toNat

def isWhole (d : Binary) : Bool :=
  0 ≤ d.exponent || d.mantissa % twoTo (-d.exponent).toNat == 0

def truncate (d : Binary) : Int :=
  if d.negative then -(d.wholePart : Int) else d.wholePart

/-- Whether the part after the binary point is one half or more. -/
def reachesHalf (d : Binary) : Bool :=
  if 0 ≤ d.exponent then false
  else twoTo (-d.exponent).toNat ≤ 2 * (d.mantissa % twoTo (-d.exponent).toNat)

end Binary

end Grimoire
