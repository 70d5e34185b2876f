import Grimoire.Proofs.Number.Ceiling

/-! # Counts among the numbers

Whole numbers up to the largest count are told apart: what equals one of them is finite, whole and not
below zero, and read as a count it is that one.  Doubles have room for many more whole numbers, each of
which is only one double, except that there are two for zero.
-/

namespace Grimoire

/-- Numbers among which the counts are told apart. -/
class Scalar.Counting (α : Type) [Scalar α] : Prop where
  count_of_beq : ∀ {x : α} {n : Nat}, (x == Scalar.ofNat n) = true → n ≤ maxCount →
    Scalar.isFinite x = true ∧ Scalar.isWhole x = true ∧ ¬ x < 0 ∧ Scalar.toNatUpTo maxCount x = n

/-! ## Doubles -/

namespace Double

open Float.Model UnpackedFloat

theorem eq_or_zeros_of_beq {u v : UnpackedFloat} (same : u.beq v = true) :
    u = v ∨ (∃ s, u = .zero s) ∧ ∃ s, v = .zero s := by
  have magnitudes {e e' : Int} {m m' : Nat} (equal : (compare e e').then (compare m m') = .eq) :
      e = e' ∧ m = m' := by
    obtain ⟨first, second⟩ := Ordering.then_eq_eq.mp equal
    exact ⟨Std.LawfulEqOrd.eq_of_compare first, Std.LawfulEqOrd.eq_of_compare second⟩
  unfold UnpackedFloat.beq at same
  rw [beq_iff_eq] at same
  rcases u with (_ | _) | _ | s | ⟨_ | _, m, e, _⟩ <;>
    rcases v with (_ | _) | _ | t | ⟨_ | _, m', e', _⟩
  case finite.negative.finite.negative =>
    obtain ⟨rfl, rfl⟩ := magnitudes (Ordering.swap_eq_eq.mp (Option.some.inj same))
    exact .inl rfl
  case finite.positive.finite.positive =>
    obtain ⟨rfl, rfl⟩ := magnitudes (Option.some.inj same)
    exact .inl rfl
  case zero.zero => exact .inr ⟨⟨s, rfl⟩, t, rfl⟩
  all_goals first | exact .inl rfl | cases same

theorem eq_of_unpack {x y : Float} (same : x.toModel.unpack = y.toModel.unpack) : x = y := by
  obtain ⟨m⟩ := x
  obtain ⟨m'⟩ := y
  change m.unpack = m'.unpack at same
  rw [← pack_unpack m, ← pack_unpack m', same]

theorem ofBitVec_unpackSign_of_lt {b : BitVec Format.binary64.numBits} (unset : b.toNat < twoTo 63) :
    Sign.ofBitVec (unpackSign b) = .positive := by
  have bit : unpackSign b = 0#_ := by
    refine BitVec.eq_of_toNat_eq ?_
    change (BitVec.extractLsb 63 63 b).toNat = 0
    rw [BitVec.extractLsb_toNat, Nat.shiftRight_eq_div_pow, Nat.div_eq_of_lt unset, Nat.zero_mod]
  unfold Sign.ofBitVec
  rw [if_pos bit]

theorem not_lt_zero_of_ofFloat? {x : Float} {d : Binary} (fraction : Binary.ofFloat? x = some d)
    (positive : d.negative = false) : ¬ x < 0 := by
  have unset : x.toBits.toNat < twoTo 63 := by
    by_contra set
    unfold Binary.ofFloat? at fraction
    simp only [decide_eq_true (Nat.le_of_not_lt set)] at fraction
    split at fraction
    · cases fraction
    · split at fraction <;> cases fraction <;> cases positive
  have sign := ofBitVec_unpackSign_of_lt (b := x.toBits.toBitVec) unset
  have special : x.toBits.toNat / twoTo 52 % twoTo 11 ≠ 2047 := by
    intro all
    unfold Binary.ofFloat? at fraction
    rw [if_pos all] at fraction
    cases fraction
  rw [lt_iff]
  change ¬ (UnpackedFloat.unpack .binary64 x.toBits.toBitVec).lt (.zero .positive) = true
  rcases unpack_kinds (b := x.toBits.toBitVec) special with zero | ⟨⟨m, e, pos, number⟩, -⟩
  · rw [zero, sign]
    decide
  · rw [number, sign]
    exact Bool.false_ne_true

theorem ofFloat?_of_zero {x : Float} {s : Sign} (zero : x.toModel.unpack = .zero s) :
    ∃ negative e, Binary.ofFloat? x = some ⟨negative, 0, e⟩ := by
  cases s with
  | positive =>
      have own : x = 0 := eq_of_unpack zero
      rw [own]
      exact ⟨_, _, rfl⟩
  | negative =>
      have own : x = -0 := eq_of_unpack zero
      rw [own]
      exact ⟨_, _, rfl⟩

theorem count_of_zero {x : Float} {s : Sign} (zero : x.toModel.unpack = .zero s) (bound : Nat) :
    Scalar.isFinite x = true ∧ Scalar.isWhole x = true ∧ ¬ x < 0 ∧ Scalar.toNatUpTo bound x = 0 := by
  obtain ⟨negative, e, fraction⟩ := ofFloat?_of_zero zero
  refine ⟨isFinite_of_ofFloat? fraction, ?_, ?_, ?_⟩
  · change Rounding.isWhole x = true
    unfold Rounding.isWhole Binary.isWhole
    simp only [fraction, Nat.zero_mod, beq_self_eq_true, Bool.or_true]
  · rw [lt_iff, zero]
    cases s <;> decide
  · change (Rounding.saturate 0 bound x).toNat = 0
    unfold Rounding.saturate Rounding.confine Binary.truncate Binary.wholePart
    simp [fraction]

theorem ofNat_eq_round (n : Nat) : (Scalar.ofNat n : Float) = Binary.round ⟨false, n, 0⟩ := by
  have nonneg : ¬ (n : Int) < 0 := Int.not_lt.mpr (Int.natCast_nonneg n)
  change Binary.round ⟨decide ((n : Int) < 0), (n : Int).natAbs, 0⟩ = _
  rw [decide_eq_false nonneg, Int.natAbs_natCast]

theorem count_of_pos {n : Nat} (pos : 0 < n) (most : n ≤ maxCount) :
    ∃ k : Nat, Binary.ofFloat? (Scalar.ofNat n) = some ⟨false, n * 2 ^ k, -k⟩ ∧
      Scalar.isWhole (Scalar.ofNat n : Float) = true ∧
      Scalar.toNatUpTo maxCount (Scalar.ofNat n : Float) = n := by
  have short : n ≤ 2 ^ 52 := Nat.le_trans most (by decide)
  obtain ⟨k, fraction⟩ := ofFloat?_round false pos short
  rw [← ofNat_eq_round] at fraction
  refine ⟨k, fraction, ?_, ?_⟩
  · change Rounding.isWhole (Scalar.ofNat n) = true
    unfold Rounding.isWhole Binary.isWhole
    simp [fraction, twoTo]
  · rw [toNatUpTo_of_ofFloat? fraction rfl, Binary.wholePart_shifted]
    exact Nat.min_eq_left most

end Double

open Double in
instance : Scalar.Counting Float where
  count_of_beq {x n} same most := by
    rcases Nat.eq_zero_or_pos n with rfl | pos
    · rcases eq_or_zeros_of_beq same with equal | ⟨⟨s, zero⟩, -⟩
      · exact count_of_zero (s := .positive) equal _
      · exact count_of_zero zero _
    · obtain ⟨k, fraction, whole, read⟩ := count_of_pos pos most
      rcases eq_or_zeros_of_beq same with equal | ⟨-, s, zero⟩
      · have own : x = Scalar.ofNat n := eq_of_unpack equal
        rw [own]
        exact ⟨isFinite_of_ofFloat? fraction, whole, not_lt_zero_of_ofFloat? fraction rfl, read⟩
      · obtain ⟨negative, e, none⟩ := ofFloat?_of_zero zero
        have nothing : n * 2 ^ k = 0 :=
          congrArg Binary.mantissa (Option.some.inj (fraction.symm.trans none))
        exact absurd nothing (Nat.mul_pos pos (Nat.two_pow_pos k)).ne'

end Grimoire
