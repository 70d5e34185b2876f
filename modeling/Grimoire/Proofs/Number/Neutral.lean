import Mathlib
import Grimoire.Number.Double

/-! # Adding nothing

Sums start from `-0`, and in doubles that is the number which changes nothing when it is added.
-/

namespace Grimoire

/-- Numbers to which `-0` may be added. -/
class Quantity.Neutral (α : Type) [Quantity α] : Prop where
  add_neg_zero : ∀ x : α, x + -0 = x

namespace Double

open Float.Model

theorem add_negative_zero (x : UnpackedFloat) :
    UnpackedFloat.add .binary64 x (.zero .negative) = x := by
  cases x with
  | zero sign => cases sign <;> rfl
  | _ => rfl

theorem pack_unpack (m : Float.Model) : Float.Model.pack m.unpack = m := by
  obtain ⟨bits, valid⟩ := m
  have same := UnpackedFloat.pack_unpack_of_valid valid
  simp only [Float.Model.pack, Float.Model.unpack, same]

end Double

instance : Quantity.Neutral Float where
  add_neg_zero x := by
    obtain ⟨m⟩ := x
    change Float.ofModel
      (Float.Model.pack (Float.Model.UnpackedFloat.add .binary64 m.unpack (.zero .negative))) = _
    rw [Double.add_negative_zero, Double.pack_unpack]

namespace Quantity

variable {α : Type} [Quantity α] [Neutral α]

theorem add_sum_nil (x : α) : x + sum [] = x := Neutral.add_neg_zero x

end Quantity

end Grimoire
