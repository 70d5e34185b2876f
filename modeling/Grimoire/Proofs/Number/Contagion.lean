import Grimoire.Proofs.Number.Ceiling
import Grimoire.Proofs.Number.Rounding

/-! # What is no number is handed on

A result that is a number was computed from numbers, which is how a comparison at the end of a
computation rules out that anything before it was none.  Lengths go the other way: numbers have one,
if only an infinite one.
-/

namespace Grimoire

open Quantity (isNaN confine)

/-- Numbers whose arithmetic hands on what is no number. -/
class Scalar.Contagious (α : Type) [Scalar α] : Prop
    extends Quantity.Rounded α, Scalar.Finitary α where
  numbers_of_add : ∀ {x y : α}, isNaN (x + y) = false → isNaN x = false ∧ isNaN y = false
  numbers_of_mul : ∀ {x y : α}, isNaN (x * y) = false → isNaN x = false ∧ isNaN y = false
  numbers_of_div : ∀ {x y : α}, isNaN (x / y) = false → isNaN x = false ∧ isNaN y = false
  number_of_toDegrees : ∀ {x : α}, isNaN (Scalar.toDegrees x) = false → isNaN x = false
  number_of_arcCos : ∀ {x : α}, isNaN (Scalar.arcCos x) = false → isNaN x = false
  number_of_beq : ∀ {x y : α}, (x == y) = true → isNaN x = false
  isNaN_hypotenuse : ∀ {x y : α}, isNaN x = false → isNaN y = false →
    isNaN (Scalar.hypotenuse x y) = false

namespace Scalar.Contagious

variable {α : Type} [Scalar α] [Contagious α] {x y : α}

theorem number_of_confine {low high : α} (number : isNaN (confine low high x) = false) :
    isNaN x = false := by
  by_contra none
  have below : ¬ x < low := fun less =>
    none (Quantity.Rounded.isNaN_of_le (Quantity.Ordered.le_of_lt less)).1
  have above : ¬ high < x := fun less =>
    none (Quantity.Rounded.isNaN_of_le (Quantity.Ordered.le_of_lt less)).2
  unfold confine at number
  rw [if_neg below, if_neg above] at number
  exact none number

end Scalar.Contagious

/-! ## Doubles -/

namespace Double

open Float.Model UnpackedFloat

theorem isNaN_pack_notANumber : (Float.Model.pack .notANumber).isNaN = true := by decide

theorem numbers_of_pack {f : UnpackedFloat → UnpackedFloat → UnpackedFloat}
    (left : ∀ v, f .notANumber v = .notANumber) (right : ∀ u, f u .notANumber = .notANumber)
    {u v : UnpackedFloat} (number : (Float.Model.pack (f u v)).isNaN = false) :
    u.isNaN = false ∧ v.isNaN = false := by
  constructor
  · cases u with
    | notANumber =>
        rw [left, isNaN_pack_notANumber] at number
        cases number
    | _ => rfl
  · cases v with
    | notANumber =>
        rw [right, isNaN_pack_notANumber] at number
        cases number
    | _ => rfl

theorem add_notANumber (u : UnpackedFloat) :
    UnpackedFloat.add .binary64 u .notANumber = .notANumber := by
  cases u <;> rfl

theorem mul_notANumber (u : UnpackedFloat) :
    UnpackedFloat.mul .binary64 u .notANumber = .notANumber := by
  cases u <;> rfl

theorem div_notANumber (u : UnpackedFloat) :
    UnpackedFloat.div .binary64 u .notANumber = .notANumber := by
  cases u <;> rfl

theorem numbers_of_mul {x y : Float} (number : (x * y).isNaN = false) :
    x.isNaN = false ∧ y.isNaN = false :=
  numbers_of_pack (f := UnpackedFloat.mul .binary64) (fun _ => rfl) mul_notANumber number

theorem isNaN_pack {u : UnpackedFloat} (number : u.isNaN = false) :
    (Float.Model.pack u).isNaN = false := by
  cases u with
  | notANumber => cases number
  | infinity s => exact (Signed.infinity (s := s)).pack.isNaN_eq
  | zero s => exact (Signed.zero (s := s)).pack.isNaN_eq
  | finite s m e pos => exact (Signed.finite (s := s) m e pos).pack.isNaN_eq

theorem isNaN_ofBits {u : UInt64} (most : u.toNat % 2 ^ 63 ≤ 2047 * 2 ^ 52) :
    (Float.ofBits u).isNaN = false := by
  refine isNaN_pack ?_
  rw [isNaN_unpack]
  refine decide_eq_false fun ⟨special, something⟩ => something ?_
  have exponent := toNat_unpackExponent u.toBitVec
  rw [special] at exponent
  change 2047 = u.toNat / 2 ^ 52 % 2 ^ 11 at exponent
  have mantissa := toNat_unpackMantissa u.toBitVec
  change _ = u.toNat % 2 ^ 52 at mantissa
  refine BitVec.eq_of_toNat_eq ?_
  rw [mantissa]
  change u.toNat % 2 ^ 52 = 0
  omega

theorem isNaN_round (d : Binary) : (Binary.round d).isNaN = false := by
  unfold Binary.round
  have most : Binary.magnitudeBits d.mantissa d.exponent ≤ 2047 * 2 ^ 52 := by
    unfold Binary.magnitudeBits
    split
    · exact Nat.zero_le _
    · exact Nat.min_le_right ..
  refine isNaN_ofBits ?_
  rw [UInt64.toNat_ofNat']
  have sign : twoTo 63 = 2 ^ 63 := rfl
  cases d.negative <;> simp only [if_true, Bool.false_eq_true, if_false, sign] <;>
    change (_ % 2 ^ 64) % 2 ^ 63 ≤ _ <;> omega

theorem exists_ofFloat? {x : Float} (finite : x.isFinite = true) :
    ∃ d, Binary.ofFloat? x = some d := by
  change (UnpackedFloat.unpack .binary64 x.toBits.toBitVec).isFinite = true at finite
  rw [isFinite_unpack, decide_eq_true_iff] at finite
  have exponent := toNat_unpackExponent x.toBits.toBitVec
  change _ = x.toBits.toNat / twoTo 52 % twoTo 11 at exponent
  have ordinary : x.toBits.toNat / twoTo 52 % twoTo 11 ≠ 2047 := by
    rw [← exponent]
    exact fun all => finite (BitVec.eq_of_toNat_eq all)
  unfold Binary.ofFloat?
  simp only [if_neg ordinary]
  split
  · exact ⟨_, rfl⟩
  · exact ⟨_, rfl⟩

theorem isInf_of_ofFloat?_none {x : Float} (none : Binary.ofFloat? x = none)
    (number : x.isNaN = false) : x.isInf = true := by
  have special : ¬ x.toModel.unpack.isFinite = true := by
    intro finite
    obtain ⟨d, fraction⟩ := exists_ofFloat? finite
    cases none.symm.trans fraction
  change x.toModel.unpack.isNaN = false at number
  change x.toModel.unpack.isInf = true
  cases unpacked : x.toModel.unpack with
  | infinity s => rfl
  | notANumber =>
      rw [unpacked] at number
      cases number
  | zero | finite =>
      rw [unpacked] at special
      exact absurd rfl special

end Double

open Double in
instance : Scalar.Contagious Float where
  numbers_of_add {x y} number :=
    numbers_of_pack (f := Float.Model.UnpackedFloat.add .binary64) (fun _ => rfl) add_notANumber number
  numbers_of_mul number := numbers_of_mul number
  numbers_of_div {x y} number :=
    numbers_of_pack (f := Float.Model.UnpackedFloat.div .binary64) (fun _ => rfl) div_notANumber number
  number_of_toDegrees number := (numbers_of_mul number).1
  number_of_arcCos {x} number := by
    change (Circle.arcCos x).isNaN = false at number
    cases fraction : Binary.ofFloat? x with
    | none =>
        unfold Circle.arcCos at number
        rw [fraction] at number
        cases number
    | some d => exact isNaN_of_isFinite (isFinite_of_ofFloat? fraction)
  number_of_beq {x y} same := by
    change x.toModel.unpack.beq y.toModel.unpack = true at same
    change x.toModel.unpack.isNaN = false
    cases unpacked : x.toModel.unpack with
    | notANumber =>
        rw [unpacked] at same
        cases same
    | _ => rfl
  isNaN_hypotenuse {x y} hx hy := by
    change (Root.hypotenuse x y).isNaN = false
    unfold Root.hypotenuse
    have long (far : (x.isInf || y.isInf) = true) :
        (if (x.isInf || y.isInf) = true then (1.0 / 0.0 : Float) else 0.0 / 0.0).isNaN = false := by
      rw [if_pos far]
      rfl
    cases first : Binary.ofFloat? x with
    | none => exact long (by rw [isInf_of_ofFloat?_none first hx, Bool.true_or])
    | some a =>
        cases second : Binary.ofFloat? y with
        | none => exact long (by rw [isInf_of_ofFloat?_none second hy, Bool.or_true])
        | some b => exact isNaN_round _

end Grimoire
