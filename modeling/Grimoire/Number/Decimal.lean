import Grimoire.Number.Binary

/-! # Doubles from decimal digits

The double that decimal digits stand for is found in two roundings.  As many digits as fit 64 bits
make a whole number, which becomes a double; this is multiplied or divided by a power of ten.  Where
the whole number and the power are both exact the answer is the nearest double, elsewhere it may be a
neighbour of it.
-/

namespace Grimoire

namespace Decimal

def digit (c : Char) : Nat := c.toNat - 48

/-- Goes on with a number by digits as long as it fits 64 bits; the second answer counts the digits
that are left over. -/
def accumulate : Nat → List Char → Nat × Nat
  | n, [] => (n, 0)
  | n, c :: cs => if 10 * n + digit c < twoTo 64 then accumulate (10 * n + digit c) cs
    else (n, cs.length + 1)

/-- The whole number and the power of ten that the digits before and after the point make.  A digit
before the point that is left over counts for the power, one after the point does not count. -/
def parts (whole fraction : List Char) : Nat × Int :=
  let (n, extra) := accumulate 0 whole
  let (n, unused) := accumulate n fraction
  (n, (extra : Int) - ((fraction.length - unused : Nat) : Int))

def maxPower : Nat := 308

def power (n : Nat) : Float := Binary.ofRatio false (tenTo n) 1

/-- A whole number times a power of ten, unless it is too large for a double. -/
def scale? (n : Nat) (exponent : Int) : Option Float :=
  let x := Binary.round ⟨false, n, 0⟩
  if n = 0 then some x
  else if 0 ≤ exponent then
    if exponent ≤ maxPower then
      let y := x * power exponent.toNat
      if y.isFinite then some y else none
    else none
  else
    let down := (-exponent).toNat
    if down ≤ maxPower then some (x / power down)
    else if down ≤ 2 * maxPower then some (x / power maxPower / power (down - maxPower))
    else some 0.0

/-- The double that digits before and after the point and an exponent stand for. -/
def toFloat? (negative : Bool) (whole fraction : List Char) (exponent : Int) : Option Float :=
  let (n, own) := parts whole fraction
  (scale? n (own + exponent)).map fun x => if negative then -x else x

end Decimal

end Grimoire
