import Grimoire.Number.Circle
import Grimoire.Number.Layout
import Grimoire.Number.Rounding
import Grimoire.Number.Scalar

/-! # Doubles as scalars

The instance that the library runs on.  Sums, products, quotients and square roots are those of the
double type; whole parts, remainders, lengths and angles are computed exactly and rounded once.
-/

namespace Grimoire

instance : Quantity Float where
  zero := 0.0
  add := Float.add
  sub := Float.sub
  neg := Float.neg
  decLt := Float.decLt
  decLe := Float.decLe
  isNaN := Float.isNaN

namespace Double

def ofInt (n : Int) : Float := Binary.round ⟨n < 0, n.natAbs, 0⟩

def radiansPerDegree : Float := 3.14159265358979323846264338327950288 / 180

def degreesPerRadian : Float := 57.2957795130823208767981548141051703

end Double

instance : Scalar Float where
  mul := Float.mul
  div := Float.div
  isFinite := Float.isFinite
  abs := Float.abs
  sqrt := Float.sqrt
  floor := Rounding.floor
  ceil := Rounding.ceil
  round := Rounding.round
  remainder := Rounding.remainder
  hypotenuse := Root.hypotenuse
  sin := Circle.sin
  cos := Circle.cos
  arcCos := Circle.arcCos
  toRadians := fun x => x * Double.radiansPerDegree
  toDegrees := fun x => x * Double.degreesPerRadian
  isWhole := Rounding.isWhole
  saturate := Rounding.saturate
  ofInt := Double.ofInt
  text := Layout.write Layout.plain

end Grimoire
