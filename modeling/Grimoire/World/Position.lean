import Grimoire.Number.Scalar

/-! # Positions

Points of the plane, which are vectors as well, and the rectangle that a world keeps its entities in.
-/

namespace Grimoire

structure Position (α : Type) where
  x : α
  y : α
  deriving DecidableEq, Repr

namespace Position

variable {α : Type} [Scalar α]

instance : Add (Position α) := ⟨fun p q => ⟨p.x + q.x, p.y + q.y⟩⟩

instance : Sub (Position α) := ⟨fun p q => ⟨p.x - q.x, p.y - q.y⟩⟩

/-- The unit vector of a heading: zero degrees point along x, ninety along y. -/
def ofDegrees (degrees : α) : Position α :=
  let angle := Scalar.toRadians degrees
  ⟨Scalar.cos angle, Scalar.sin angle⟩

def isFinite (p : Position α) : Bool := Scalar.isFinite p.x && Scalar.isFinite p.y

def length (p : Position α) : α := Scalar.hypotenuse p.x p.y

def distance (p q : Position α) : α := (q - p).length

def dot (p q : Position α) : α := p.x * q.x + p.y * q.y

/-- The area between two vectors, positive when the second is clockwise of the first. -/
def cross (p q : Position α) : α := p.x * q.y - p.y * q.x

def scale (p : Position α) (k : α) : Position α := ⟨p.x * k, p.y * k⟩

def leastLength : α := Scalar.ratio 1 (twoTo 52)

/-- The vector of length one in the same direction, unless the length is tiny or not finite. -/
def normalize? (p : Position α) : Option (Position α) :=
  let length := p.length
  if leastLength < length ∧ Scalar.isFinite length then some ⟨p.x / length, p.y / length⟩ else none

def text (p : Position α) : String := "(" ++ Scalar.text p.x ++ ", " ++ Scalar.text p.y ++ ")"

end Position

structure Bounds (α : Type) where
  low : Position α
  high : Position α
  deriving DecidableEq, Repr

namespace Bounds

variable {α : Type} [Scalar α]

def standard : Bounds α :=
  ⟨⟨Scalar.ofInt (-10000), Scalar.ofInt (-10000)⟩, ⟨Scalar.ofInt 10000, Scalar.ofInt 10000⟩⟩

def contains (b : Bounds α) (p : Position α) : Bool :=
  p.isFinite && decide (b.low.x ≤ p.x) && decide (p.x ≤ b.high.x) && decide (b.low.y ≤ p.y) &&
    decide (p.y ≤ b.high.y)

end Bounds

end Grimoire
