import Grimoire.Number.Binary

/-! # Whole parts and remainders

The four ways of making a double whole, its conversion to a bounded whole number, and the remainder
of a division.  Each is exact arithmetic on the double's mantissa and exponent; the sign of a zero
result is the sign of the argument.
-/

namespace Grimoire

namespace Rounding

/-- A double made whole: `adjust` gets the number and answers the magnitude that replaces it.  A
number that is not finite, or is whole already, stays as it is. -/
def wholeWith (adjust : Binary → Nat) (x : Float) : Float :=
  match Binary.ofFloat? x with
  | none => x
  | some d => if d.isWhole then x else Binary.round ⟨d.negative, adjust d, 0⟩

def floor : Float → Float :=
  wholeWith fun d => if d.negative then d.wholePart + 1 else d.wholePart

def ceil : Float → Float :=
  wholeWith fun d => if d.negative then d.wholePart else d.wholePart + 1

def round : Float → Float :=
  wholeWith fun d => if d.reachesHalf then d.wholePart + 1 else d.wholePart

/-- Whether a double is a whole number; numbers that are not finite are not. -/
def isWhole (x : Float) : Bool :=
  match Binary.ofFloat? x with
  | none => false
  | some d => d.isWhole

def confine (low high n : Int) : Int := max low (min high n)

/-- The part of a double before the binary point, held between two bounds; `0` for NaN. -/
def saturate (low high : Int) (x : Float) : Int :=
  match Binary.ofFloat? x with
  | some d => confine low high d.truncate
  | none => if x.isNaN then 0 else if x < 0 then low else high

/-- What is left of `x` after taking away as many whole `y` as fit: it has the sign of `x` and is
smaller than `y`, and it is exact. -/
def remainder (x y : Float) : Float :=
  match Binary.ofFloat? x, Binary.ofFloat? y with
  | some a, some b =>
    if b.mantissa = 0 then 0.0 / 0.0 else
      let e := min a.exponent b.exponent
      let dividend := a.mantissa * twoTo (a.exponent - e).toNat
      let divisor := b.mantissa * twoTo (b.exponent - e).toNat
      Binary.round ⟨a.negative, dividend % divisor, e⟩
  | some _, none => if y.isNaN then y else x
  | none, _ => 0.0 / 0.0

end Rounding

end Grimoire
