import Grimoire.Number.Binary

/-! # Square roots of whole numbers, and lengths

`floorRoot n` is the greatest `r` with `r * r ≤ n`, found bit by bit from the top.  A root that is
not whole is never half way between two doubles, so the root of a number scaled up by an even power
of two, with one more bit that says whether something was cut off, rounds to the right double.
`hypotenuse` is built that way and neither overflows nor underflows on its way.
-/

namespace Grimoire

namespace Root

/-- Sets the bits below `2 ^ k` of a root that is known from there up. -/
def setBits (n : Nat) : Nat → Nat → Nat
  | 0, r => r
  | k + 1, r => setBits n k (if (r + twoTo k) * (r + twoTo k) ≤ n then r + twoTo k else r)

def floorRoot (n : Nat) : Nat := setBits n (Nat.log2 n / 2 + 1) 0

def ofSquare (n : Nat) (e : Int) : Float :=
  let spread := 64 - Nat.log2 n / 2
  let scaled := n * twoTo (2 * spread)
  let r := floorRoot scaled
  Binary.round (Binary.withSticky ⟨false, r, e - spread⟩ (r * r != scaled))

/-- The length of the vector `(x, y)`: an infinite side makes it infinite, whatever the other is. -/
def hypotenuse (x y : Float) : Float :=
  match Binary.ofFloat? x, Binary.ofFloat? y with
  | some a, some b =>
    let e := min a.exponent b.exponent
    let p := a.mantissa * twoTo (a.exponent - e).toNat
    let q := b.mantissa * twoTo (b.exponent - e).toNat
    ofSquare (p * p + q * q) e
  | _, _ => if x.isInf || y.isInf then 1.0 / 0.0 else 0.0 / 0.0

end Root

end Grimoire
