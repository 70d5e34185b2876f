import Mathlib
import Grimoire.Number.Double

/-! # Comparing numbers

Two laws of numbers that the library relies on.  Comparisons are those of a total order, except that
what is no number compares with nothing; and a sign changes nothing about whether a number is finite.
Doubles keep both, which is shown on the bits that they are made of.
-/

namespace Grimoire

open Quantity (isNaN positivePart)

/-- Numbers that are ordered but for what is no number. -/
class Quantity.Ordered (α : Type) [Quantity α] : Prop where
  le_of_lt : ∀ {x y : α}, x < y → x ≤ y
  not_lt_of_le : ∀ {x y : α}, x ≤ y → ¬ y < x
  le_of_not_lt : ∀ {x y : α}, isNaN x = false → isNaN y = false → ¬ y < x → x ≤ y
  isNaN_zero : isNaN (0 : α) = false

/-- Numbers whose signs do not matter for whether they are finite. -/
class Scalar.Finitary (α : Type) [Scalar α] : Prop where
  isFinite_neg : ∀ x : α, Scalar.isFinite (-x) = Scalar.isFinite x
  isNaN_neg : ∀ x : α, isNaN (-x) = isNaN x
  isNaN_of_isFinite : ∀ {x : α}, Scalar.isFinite x = true → isNaN x = false
  isFinite_of_isWhole : ∀ {x : α}, Scalar.isWhole x = true → Scalar.isFinite x = true

namespace Quantity.Ordered

variable {α : Type} [Quantity α] [Ordered α]

theorem zero_le_zero : (0 : α) ≤ 0 := by
  by_cases less : (0 : α) < 0
  · exact le_of_lt less
  · exact le_of_not_lt isNaN_zero isNaN_zero less

/-- A positive part is not below zero, also of NaN. -/
theorem zero_le_positivePart (x : α) : 0 ≤ positivePart x := by
  unfold positivePart
  by_cases positive : 0 < x
  · rw [if_pos positive]
    exact le_of_lt positive
  · rw [if_neg positive]
    exact zero_le_zero

end Quantity.Ordered

/-! ## Doubles -/

namespace Double

open Float.Model UnpackedFloat

theorem compare_swap (x y : UnpackedFloat) : y.compare x = (x.compare y).map Ordering.swap := by
  have signs (s t : Sign) : compare t s = (compare s t).swap := by
    cases s <;> cases t <;> rfl
  have magnitudes (e e' : Int) (m m' : Nat) :
      (compare e' e).then (compare m' m) = ((compare e e').then (compare m m')).swap := by
    rw [Ordering.swap_then, Int.compare_swap, Nat.compare_swap]
  cases x with
  | notANumber => cases y <;> rfl
  | infinity s =>
      cases y with
      | infinity t => exact congrArg some (signs s t)
      | _ => cases s <;> rfl
  | zero s =>
      cases y with
      | infinity t => cases t <;> rfl
      | finite t => cases t <;> rfl
      | _ => rfl
  | finite s m e =>
      cases y with
      | finite t m' e' =>
          cases s <;> cases t
          · exact congrArg (fun o => some (Ordering.swap o)) (magnitudes e e' m m')
          · rfl
          · rfl
          · exact congrArg some (magnitudes e e' m m')
      | infinity t => cases s <;> cases t <;> rfl
      | notANumber => rfl
      | zero => cases s <;> rfl

theorem compare_isSome {x y : UnpackedFloat} (hx : x.isNaN = false) (hy : y.isNaN = false) :
    (x.compare y).isSome = true := by
  cases x with
  | notANumber => cases hx
  | infinity s =>
      cases y with
      | notANumber => cases hy
      | infinity => rfl
      | _ => cases s <;> rfl
  | zero s =>
      cases y with
      | notANumber => cases hy
      | zero => rfl
      | infinity t => cases t <;> rfl
      | finite t => cases t <;> rfl
  | finite s =>
      cases y with
      | notANumber => cases hy
      | zero => cases s <;> rfl
      | infinity t => cases s <;> cases t <;> rfl
      | finite t => cases s <;> cases t <;> rfl

theorem le_of_lt {x y : UnpackedFloat} (h : x.lt y = true) : x.le y = true := by
  have less : x.compare y = some .lt := by simpa [UnpackedFloat.lt] using h
  simp [UnpackedFloat.le, less]

theorem not_lt_of_le {x y : UnpackedFloat} (h : x.le y = true) : y.lt x = false := by
  unfold UnpackedFloat.lt
  unfold UnpackedFloat.le at h
  rw [compare_swap x y]
  cases compared : x.compare y with
  | none => rfl
  | some o =>
      rw [compared] at h
      cases o with
      | gt => cases h
      | _ => rfl

theorem le_of_not_lt {x y : UnpackedFloat} (hx : x.isNaN = false) (hy : y.isNaN = false)
    (h : y.lt x = false) : x.le y = true := by
  obtain ⟨o, compared⟩ := Option.isSome_iff_exists.mp (compare_isSome hx hy)
  unfold UnpackedFloat.lt at h
  rw [compare_swap x y, compared] at h
  unfold UnpackedFloat.le
  rw [compared]
  cases o with
  | gt => cases h
  | _ => rfl

/-- Where a number stands among all others: by its kind and sign, then by its exponent, then by its
mantissa. -/
def rank : UnpackedFloat → Int ×ₗ Int ×ₗ Int
  | .infinity .negative => toLex (-2, toLex (0, 0))
  | .finite .negative m e _ => toLex (-1, toLex (-e, -m))
  | .notANumber | .zero _ => toLex (0, toLex (0, 0))
  | .finite .positive m e _ => toLex (1, toLex (e, m))
  | .infinity .positive => toLex (2, toLex (0, 0))

theorem magnitude_isLE (e e' : Int) (m m' : Nat) :
    ((compare e e').then (compare m m')).isLE = true ↔ e < e' ∨ e = e' ∧ m ≤ m' := by
  rcases lt_trichotomy e e' with less | rfl | more
  · simp [compare_lt_iff_lt.mpr less, less]
  · simp [Std.ReflCmp.compare_self, Nat.isLE_compare]
  · have other : ¬ (e < e' ∨ e = e' ∧ m ≤ m') := by omega
    simp [compare_gt_iff_gt.mpr more, other]

/-- Numbers are compared by where they stand.  Two finite ones of the same sign are the only case in
which more than their kind matters. -/
theorem le_iff_rank (x y : UnpackedFloat) :
    x.le y = true ↔ x.isNaN = false ∧ y.isNaN = false ∧ rank x ≤ rank y := by
  rcases x with (_ | _) | _ | (_ | _) | ⟨_ | _, m, e, _⟩ <;>
    rcases y with (_ | _) | _ | (_ | _) | ⟨_ | _, m', e', _⟩ <;>
      simp [UnpackedFloat.le, UnpackedFloat.compare, UnpackedFloat.isNaN, rank,
        Prod.Lex.toLex_le_toLex, magnitude_isLE]
  case finite.negative.finite.negative =>
    have swapped := magnitude_isLE e' e m' m
    rw [← Int.compare_swap, ← Nat.compare_swap, ← Ordering.swap_then, Ordering.isLE_swap] at swapped
    rw [swapped, eq_comm (a := e')]
  all_goals rfl

theorem le_trans {x y z : UnpackedFloat} (h : x.le y = true) (h' : y.le z = true) :
    x.le z = true := by
  rw [le_iff_rank] at h h' ⊢
  exact ⟨h.1, h'.2.1, h.2.2.trans h'.2.2⟩

theorem lt_iff (x y : Float) : x < y ↔ x.toModel.unpack.lt y.toModel.unpack = true :=
  decide_eq_true_iff

theorem le_iff (x y : Float) : x ≤ y ↔ x.toModel.unpack.le y.toModel.unpack = true :=
  decide_eq_true_iff

/-! ### Unpacking -/

/-- What bits are read as, by the exponent and the mantissa that they hold. -/
inductive Unpacks (b : BitVec Format.binary64.numBits) : UnpackedFloat → Prop where
  | infinity : unpackExponent b = -1#_ → unpackMantissa b = 0#_ →
      Unpacks b (.infinity (Sign.ofBitVec (unpackSign b)))
  | notANumber : unpackExponent b = -1#_ → unpackMantissa b ≠ 0#_ → Unpacks b .notANumber
  | zero : unpackExponent b = 0#_ → unpackMantissa b = 0#_ →
      Unpacks b (.zero (Sign.ofBitVec (unpackSign b)))
  | subnormal (pos : 0 < (unpackMantissa b).toNat) : unpackExponent b = 0#_ →
      Unpacks b (.finite (Sign.ofBitVec (unpackSign b)) (unpackMantissa b).toNat (-1074) pos)
  | normal (pos : 0 < (1#1 ++ unpackMantissa b).toNat) : unpackExponent b ≠ -1#_ →
      unpackExponent b ≠ 0#_ →
      Unpacks b (.finite (Sign.ofBitVec (unpackSign b)) (1#1 ++ unpackMantissa b).toNat
        ((unpackExponent b).toNat - 1075) pos)

theorem unpacks (b : BitVec Format.binary64.numBits) :
    Unpacks b (UnpackedFloat.unpack .binary64 b) := by
  unfold UnpackedFloat.unpack
  by_cases special : unpackExponent b = -1#_
  · rw [if_pos special]
    by_cases nothing : unpackMantissa b = 0#_
    · rw [if_pos nothing]
      exact .infinity special nothing
    · rw [if_neg nothing]
      exact .notANumber special nothing
  · rw [if_neg special]
    by_cases small : unpackExponent b = 0#_
    · rw [if_pos small]
      by_cases nothing : unpackMantissa b = 0#_
      · rw [dif_pos nothing]
        exact .zero small nothing
      · have pos : 0 < (unpackMantissa b).toNat :=
          Nat.pos_of_ne_zero fun zero => nothing (BitVec.eq_of_toNat_eq zero)
        rw [dif_neg nothing, small]
        exact .subnormal pos small
    · rw [if_neg small]
      exact .normal _ special small

/-! ### Signs -/

/-- The exponent whose bits are all set belongs to what is not finite. -/
theorem isFinite_unpack (b : BitVec Format.binary64.numBits) :
    (UnpackedFloat.unpack .binary64 b).isFinite = decide (unpackExponent b ≠ -1#_) := by
  have read := unpacks b
  generalize UnpackedFloat.unpack .binary64 b = u at read
  cases read with
  | infinity special => exact (decide_eq_false (not_not.mpr special)).symm
  | notANumber special => exact (decide_eq_false (not_not.mpr special)).symm
  | zero small => rw [small]; rfl
  | subnormal _ small => rw [small]; rfl
  | normal _ ordinary => exact (decide_eq_true ordinary).symm

theorem isNaN_unpack (b : BitVec Format.binary64.numBits) :
    (UnpackedFloat.unpack .binary64 b).isNaN =
      decide (unpackExponent b = -1#_ ∧ unpackMantissa b ≠ 0#_) := by
  have read := unpacks b
  generalize UnpackedFloat.unpack .binary64 b = u at read
  symm
  cases read with
  | infinity _ nothing => exact decide_eq_false fun h => h.2 nothing
  | notANumber special something => exact decide_eq_true ⟨special, something⟩
  | zero _ nothing => exact decide_eq_false fun h => h.2 nothing
  | subnormal _ small => exact decide_eq_false fun h => by cases small.symm.trans h.1
  | normal _ ordinary => exact decide_eq_false fun h => ordinary h.1

theorem pack_neg (u : UnpackedFloat) :
    unpackExponent (UnpackedFloat.pack .binary64 u.neg) =
        unpackExponent (UnpackedFloat.pack .binary64 u) ∧
      unpackMantissa (UnpackedFloat.pack .binary64 u.neg) =
        unpackMantissa (UnpackedFloat.pack .binary64 u) := by
  cases u with
  | notANumber => exact ⟨rfl, rfl⟩
  | infinity s => simp [UnpackedFloat.neg, UnpackedFloat.pack, packedInfinity]
  | zero s => simp [UnpackedFloat.neg, UnpackedFloat.pack, packedZero]
  | finite s m e =>
      simp only [UnpackedFloat.neg, UnpackedFloat.pack]
      split
      · simp [packedInfinity]
      · split <;> simp

theorem isFinite_neg (m : Float.Model) : (-m).isFinite = m.isFinite := by
  obtain ⟨bits, valid⟩ := m
  change (UnpackedFloat.unpack .binary64 (UnpackedFloat.pack .binary64
    (UnpackedFloat.unpack .binary64 bits.toBitVec).neg)).isFinite =
      (UnpackedFloat.unpack .binary64 bits.toBitVec).isFinite
  rw [isFinite_unpack, isFinite_unpack, (pack_neg _).1, UnpackedFloat.pack_unpack_of_valid valid]

theorem isNaN_neg (m : Float.Model) : (-m).isNaN = m.isNaN := by
  obtain ⟨bits, valid⟩ := m
  change (UnpackedFloat.unpack .binary64 (UnpackedFloat.pack .binary64
    (UnpackedFloat.unpack .binary64 bits.toBitVec).neg)).isNaN =
      (UnpackedFloat.unpack .binary64 bits.toBitVec).isNaN
  rw [isNaN_unpack, isNaN_unpack, (pack_neg _).1, (pack_neg _).2,
    UnpackedFloat.pack_unpack_of_valid valid]

theorem isNaN_of_isFinite {u : UnpackedFloat} (h : u.isFinite = true) : u.isNaN = false := by
  cases u with
  | notANumber => cases h
  | _ => rfl

theorem isFinite_of_ofFloat? {x : Float} {d : Binary} (h : Binary.ofFloat? x = some d) :
    x.isFinite = true := by
  obtain ⟨bits, valid⟩ := x
  change (UnpackedFloat.unpack .binary64 bits.toBitVec).isFinite = true
  rw [isFinite_unpack, decide_eq_true_iff]
  intro special
  have exponent : bits.toNat / twoTo 52 % twoTo 11 = 2047 := by
    have e := congrArg BitVec.toNat special
    change (bits.toBitVec.extractLsb 62 52).toNat = 2047 at e
    rw [BitVec.extractLsb_toNat, Nat.shiftRight_eq_div_pow] at e
    exact e
  unfold Binary.ofFloat? at h
  change (if bits.toNat / twoTo 52 % twoTo 11 = 2047 then none else _) = some d at h
  rw [if_pos exponent] at h
  cases h

end Double

instance : Quantity.Ordered Float where
  le_of_lt h := (Double.le_iff _ _).mpr (Double.le_of_lt ((Double.lt_iff _ _).mp h))
  not_lt_of_le {x y} h := by
    rw [Double.lt_iff, Bool.not_eq_true]
    exact Double.not_lt_of_le ((Double.le_iff x y).mp h)
  le_of_not_lt {x y} hx hy h := by
    rw [Double.lt_iff, Bool.not_eq_true] at h
    exact (Double.le_iff x y).mpr (Double.le_of_not_lt hx hy h)
  isNaN_zero := rfl

instance : Scalar.Finitary Float where
  isFinite_neg x := Double.isFinite_neg x.toModel
  isNaN_neg x := Double.isNaN_neg x.toModel
  isNaN_of_isFinite h := Double.isNaN_of_isFinite h
  isFinite_of_isWhole {x} h := by
    change Rounding.isWhole x = true at h
    unfold Rounding.isWhole at h
    cases fraction : Binary.ofFloat? x with
    | none => simp [fraction] at h
    | some d => exact Double.isFinite_of_ofFloat? fraction

end Grimoire
