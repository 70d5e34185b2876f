import Grimoire.Number.Power

/-! # The numbers of the library

Nothing but the reading and writing of documents fixes what a number is.  Pools, stats and ceilings
need a `Quantity`, which can be added, compared and negated; expressions and geometry need a
`Scalar`, which has the whole arithmetic.  The library runs on doubles; on an exact instance the
same definitions compute without rounding.

Comparisons are the ones of the instance, so where it has a value that compares with nothing, the
operations below say what becomes of it.
-/

namespace Grimoire

class Quantity (α : Type) extends Zero α, Add α, Sub α, Neg α, BEq α, LT α, LE α where
  /-- `<` can be decided. -/
  decLt : DecidableLT α
  /-- `≤` can be decided. -/
  decLe : DecidableLE α
  /-- Whether this value stands for no number. -/
  isNaN : α → Bool

namespace Quantity

variable {α : Type} [Quantity α]

instance : DecidableLT α := decLt

instance : DecidableLE α := decLe

/-- The larger of two numbers, the second one if neither is; a value that is no number gives way. -/
def max (x y : α) : α := if y < x || isNaN y then x else y

/-- The smaller of two numbers, the second one if neither is; a value that is no number gives way. -/
def min (x y : α) : α := if x < y || isNaN y then x else y

def positivePart (x : α) : α := if 0 < x then x else 0

/-- A number moved to the nearer bound if it is outside of the bounds. -/
def confine (low high x : α) : α := if x < low then low else if high < x then high else x

/-- A number between two bounds, of which there is none when the bounds are out of order. -/
def confine? (low high x : α) : Option α := if low ≤ high then some (confine low high x) else none

/-- The sum of a list, from the left.  It starts from `-0`, to which adding `x` gives `x` whatever
the sign of a zero `x` is. -/
def sum (xs : List α) : α := xs.foldl (· + ·) (-0)

end Quantity

/-- Numbers with the arithmetic that expressions and geometry use. -/
class Scalar (α : Type) extends Quantity α, Mul α, Div α where
  isFinite : α → Bool
  abs : α → α
  /-- The square root of a number that is not negative. -/
  sqrt : α → α
  /-- The greatest whole number that is not above. -/
  floor : α → α
  /-- The least whole number that is not below. -/
  ceil : α → α
  /-- The nearest whole number, a half going away from zero. -/
  round : α → α
  /-- What a division leaves, with the sign of the dividend. -/
  remainder : α → α → α
  /-- The length of a vector given by its two sides. -/
  hypotenuse : α → α → α
  sin : α → α
  cos : α → α
  /-- The angle in radians that has this cosine. -/
  arcCos : α → α
  /-- An angle in degrees, in radians. -/
  toRadians : α → α
  /-- An angle in radians, in degrees. -/
  toDegrees : α → α
  isWhole : α → Bool
  /-- The whole part, held between two bounds; zero for what is no number. -/
  saturate : Int → Int → α → Int
  /-- The number nearest to a whole number. -/
  ofInt : Int → α
  text : α → String

namespace Scalar

variable {α : Type} [Scalar α]

def ofNat (n : Nat) : α := ofInt n

def ratio (n d : Nat) : α := (ofNat n : α) / ofNat d

def truthy (x : α) : Bool := !(x == 0) && !Quantity.isNaN x

def toNatUpTo (bound : Nat) (x : α) : Nat := (saturate 0 bound x).toNat

end Scalar

def maxCount : Nat := 4294967295

def maxTick : Nat := 18446744073709551615

end Grimoire
