import Grimoire.Proofs.Number.Rounding

/-! # Rounding up

A duration is rounded up to whole ticks, so a duration above zero is one tick at least.  For doubles
rounding up is exact: a double that is not whole is below `2 ^ 52`, and the next whole number is a double.
-/

namespace Grimoire

open Quantity (isNaN)

/-- Numbers of which all above zero are rounded up to one at least. -/
class Scalar.RoundsUp (α : Type) [Scalar α] : Prop where
  one_le_ceil : ∀ {x : α} {bound : Nat}, isNaN x = false → ¬ x < 0 → (x == 0) = false → 0 < bound →
    1 ≤ Scalar.toNatUpTo bound (Scalar.ceil x)

/-! ## Binary fractions -/

theorem ceil_ratio {m k : Nat} (pos : 0 < k) :
    ⌈(m : ℚ) / k⌉₊ = if m % k = 0 then m / k else m / k + 1 := by
  have parts : (m : ℚ) = k * (m / k : Nat) + (m % k : Nat) := by
    exact_mod_cast (Nat.div_add_mod m k).symm
  have above : (0 : ℚ) < k := by exact_mod_cast pos
  by_cases whole : m % k = 0
  · rw [if_pos whole, parts, whole, Nat.cast_zero, add_zero, mul_div_cancel_left₀ _ above.ne',
      Nat.ceil_natCast]
  · have some : (0 : ℚ) < (m % k : Nat) := by exact_mod_cast Nat.pos_of_ne_zero whole
    have short : ((m % k : Nat) : ℚ) < k := by exact_mod_cast Nat.mod_lt m pos
    rw [if_neg whole, Nat.ceil_eq_iff (Nat.succ_ne_zero _), Nat.succ_sub_one, lt_div_iff₀ above,
      div_le_iff₀ above]
    push_cast
    constructor <;> linarith

theorem cast_twoTo (n : Nat) : ((twoTo n : Nat) : ℚ) = 2 ^ n := by
  change ((2 ^ n : Nat) : ℚ) = 2 ^ n
  push_cast
  rfl

namespace Binary

def magnitude (d : Binary) : ℚ := d.mantissa * 2 ^ d.exponent

variable (d : Binary)

theorem ceil_magnitude :
    ⌈d.magnitude⌉₊ = if d.isWhole then d.wholePart else d.wholePart + 1 := by
  obtain ⟨negative, m, exponent⟩ := d
  unfold magnitude
  cases exponent with
  | ofNat e =>
      have same : (m : ℚ) * 2 ^ (Int.ofNat e) = (m * twoTo e : Nat) := by
        rw [Int.ofNat_eq_natCast, zpow_natCast, Nat.cast_mul, cast_twoTo]
      have whole : isWhole ⟨negative, m, .ofNat e⟩ = true := rfl
      rw [same, Nat.ceil_natCast, if_pos whole]
      rfl
  | negSucc e =>
      have same : (m : ℚ) * 2 ^ (Int.negSucc e) = m / (twoTo (e + 1) : Nat) := by
        rw [zpow_negSucc, div_eq_mul_inv, cast_twoTo]
      have whole : isWhole ⟨negative, m, .negSucc e⟩ = (m % twoTo (e + 1) == 0) := rfl
      rw [same, ceil_ratio (k := twoTo (e + 1)) (Nat.two_pow_pos _), whole]
      simp only [beq_iff_eq]
      rfl

theorem wholePart_shifted (negative : Bool) (n k : Nat) :
    wholePart ⟨negative, n * 2 ^ k, -k⟩ = n := by
  unfold wholePart
  cases k with
  | zero => simp
  | succ k =>
      have below : ¬ (0 : Int) ≤ -((k + 1 : Nat) : Int) := by omega
      simp only [below, if_false, neg_neg, Int.toNat_natCast]
      exact Nat.mul_div_cancel _ (Nat.two_pow_pos _)

end Binary

/-! ## Doubles -/

namespace Double

open Float.Model UnpackedFloat

theorem toNat_unpackExponent (b : BitVec Format.binary64.numBits) :
    (unpackExponent b).toNat = b.toNat / twoTo 52 % twoTo 11 := by
  change (BitVec.extractLsb 62 52 b).toNat = _
  rw [BitVec.extractLsb_toNat, Nat.shiftRight_eq_div_pow]

theorem toNat_unpackMantissa (b : BitVec Format.binary64.numBits) :
    (unpackMantissa b).toNat = b.toNat % twoTo 52 := by
  change (BitVec.extractLsb 51 0 b).toNat = _
  rw [BitVec.extractLsb_toNat, Nat.shiftRight_zero]

theorem toBits_ofBits {u : UInt64} (finite : u.toNat / twoTo 52 % twoTo 11 ≠ 2047) :
    (Float.ofBits u).toBits = u := by
  have valid : Format.binary64.Valid u.toBitVec := by
    refine ⟨fun special => absurd ?_ finite⟩
    have exponent := toNat_unpackExponent u.toBitVec
    rw [special] at exponent
    exact exponent.symm
  exact UInt64.toBitVec_inj.mp (pack_unpack_of_valid valid)

theorem magnitudeBits_whole {n : Nat} (pos : 0 < n) (short : n ≤ 2 ^ 52) :
    ∃ k, n.log2 + k = 52 ∧ 2 ^ 52 ≤ n * 2 ^ k ∧ n * 2 ^ k < 2 ^ 53 ∧
      Binary.magnitudeBits n 0 = (1022 + n.log2) * 2 ^ 52 + n * 2 ^ k := by
  have least := Nat.log2_self_le pos.ne'
  have most := @Nat.lt_log2_self n
  have within : n.log2 ≤ 52 := by
    by_contra more
    have beyond : 2 ^ 53 ≤ 2 ^ n.log2 := Nat.pow_le_pow_right (by decide) (by omega)
    omega
  obtain ⟨k, sum⟩ := Nat.exists_eq_add_of_le within
  have low : 2 ^ 52 ≤ n * 2 ^ k := by
    rw [sum, Nat.pow_add]
    exact Nat.mul_le_mul_right _ least
  have high : n * 2 ^ k < 2 ^ 53 := by
    have room : 2 ^ 53 = 2 ^ (n.log2 + 1) * 2 ^ k := by
      rw [← Nat.pow_add]
      congr 1
      omega
    rw [room]
    exact Nat.mul_lt_mul_of_pos_right most (Nat.two_pow_pos k)
  refine ⟨k, sum.symm, low, high, ?_⟩
  have place : max ((0 : Int) + (n.log2 : Int) - 52) Binary.leastExponent = n.log2 - 52 := by
    unfold Binary.leastExponent
    omega
  have shift : ((0 : Int) - (n.log2 - 52)).toNat = k := by omega
  have base : ((n.log2 : Int) - 52 - Binary.leastExponent).toNat = 1022 + n.log2 := by
    unfold Binary.leastExponent
    omega
  unfold Binary.magnitudeBits
  rw [if_neg pos.ne']
  simp only [place, shift, base, if_pos (show (n.log2 : Int) - 52 ≤ 0 by omega)]
  change min ((1022 + n.log2) * 2 ^ 52 + n * 2 ^ k) (2047 * 2 ^ 52) = _
  omega

/-- The double whose bits are made of an exponent that is neither the least nor the largest one. -/
theorem ofFloat?_ofBits {n biased fraction : Nat} (negative : Bool)
    (bits : n = biased * 2 ^ 52 + fraction) (short : fraction < 2 ^ 52) (pos : 0 < biased)
    (finite : biased < 2047) :
    Binary.ofFloat? (Float.ofBits (UInt64.ofNat ((if negative then twoTo 63 else 0) + n))) =
      some ⟨negative, 2 ^ 52 + fraction, (biased : Int) - 1075⟩ := by
  have half : twoTo 63 = 2 ^ 63 := rfl
  have low : twoTo 52 = 2 ^ 52 := rfl
  have few : twoTo 11 = 2 ^ 11 := rfl
  obtain ⟨sum, shown⟩ : ∃ sum, sum = (if negative then twoTo 63 else 0) + n := ⟨_, rfl⟩
  have whole : (UInt64.ofNat sum).toNat = sum := by
    rw [UInt64.toNat_ofNat']
    refine Nat.mod_eq_of_lt ?_
    rw [shown, half]
    split <;> omega
  have sign : decide (twoTo 63 ≤ sum) = negative := by
    rw [shown, half]
    cases negative with
    | false =>
        simp only [Bool.false_eq_true, if_false, decide_eq_false_iff_not]
        omega
    | true => simp
  have exponent : sum / twoTo 52 % twoTo 11 = biased := by
    rw [shown, half, low, few]
    split <;> omega
  have mantissa : sum % twoTo 52 = fraction := by
    rw [shown, half, low]
    split <;> omega
  have kept : (Float.ofBits (UInt64.ofNat sum)).toBits = UInt64.ofNat sum :=
    toBits_ofBits (by rw [whole, exponent]; exact finite.ne)
  unfold Binary.ofFloat?
  simp only [← shown, kept, whole, exponent, mantissa, sign, if_neg finite.ne, if_neg pos.ne']
  rfl

theorem ofFloat?_round {n : Nat} (negative : Bool) (pos : 0 < n) (short : n ≤ 2 ^ 52) :
    ∃ k : Nat, Binary.ofFloat? (Binary.round ⟨negative, n, 0⟩) =
      some ⟨negative, n * 2 ^ k, -k⟩ := by
  obtain ⟨k, sum, low, high, written⟩ := magnitudeBits_whole pos short
  refine ⟨k, ?_⟩
  have bits : Binary.magnitudeBits n 0 = (1023 + n.log2) * 2 ^ 52 + (n * 2 ^ k - 2 ^ 52) := by
    rw [written]
    omega
  have mantissa : 2 ^ 52 + (n * 2 ^ k - 2 ^ 52) = n * 2 ^ k := by omega
  have exponent : ((1023 + n.log2 : Nat) : Int) - 1075 = -k := by omega
  rw [← mantissa, ← exponent]
  exact ofFloat?_ofBits negative bits (by omega) (by omega) (by omega)

theorem mantissa_lt {x : Float} {d : Binary} (fraction : Binary.ofFloat? x = some d) :
    d.mantissa < 2 ^ 53 := by
  unfold Binary.ofFloat? at fraction
  have short : x.toBits.toNat % twoTo 52 < 2 ^ 52 := Nat.mod_lt _ (Nat.two_pow_pos _)
  dsimp only at fraction
  split at fraction
  · cases fraction
  · split at fraction
    · cases fraction
      dsimp only
      omega
    · cases fraction
      change 2 ^ 52 + _ < _
      omega

/-- What is no whole double is small enough to be rounded up to a double. -/
theorem wholePart_lt {x : Float} {d : Binary} (fraction : Binary.ofFloat? x = some d)
    (part : d.isWhole = false) : d.wholePart < 2 ^ 52 := by
  have mantissa := mantissa_lt fraction
  have negative : d.exponent < 0 := by
    by_contra whole
    simp [Binary.isWhole, not_lt.mp whole] at part
  unfold Binary.wholePart
  rw [if_neg (not_le.mpr negative)]
  have two : 2 ^ 1 ≤ twoTo (-d.exponent).toNat := Nat.pow_le_pow_right (by decide) (by omega)
  have half : d.mantissa / twoTo (-d.exponent).toNat ≤ d.mantissa / 2 :=
    Nat.div_le_div_left two (by decide)
  omega

/-- The whole part of a double without a sign, held under a bound. -/
theorem toNatUpTo_of_ofFloat? {x : Float} {d : Binary} (fraction : Binary.ofFloat? x = some d)
    (positive : d.negative = false) (bound : Nat) :
    Scalar.toNatUpTo bound x = min d.wholePart bound := by
  change (Rounding.saturate 0 bound x).toNat = _
  unfold Rounding.saturate Rounding.confine Binary.truncate
  simp only [fraction, positive, Bool.false_eq_true, if_false]
  omega

/-- Rounding a double up, and holding it under a bound, is what it is for the number that the double
stands for. -/
theorem toNatUpTo_ceil {x : Float} {d : Binary} (fraction : Binary.ofFloat? x = some d)
    (positive : d.negative = false) (bound : Nat) :
    Scalar.toNatUpTo bound (Scalar.ceil x) = min ⌈d.magnitude⌉₊ bound := by
  change Scalar.toNatUpTo bound (Rounding.ceil x) = _
  unfold Rounding.ceil Rounding.wholeWith
  rw [d.ceil_magnitude]
  simp only [fraction, positive, Bool.false_eq_true, if_false]
  cases whole : d.isWhole with
  | true => exact toNatUpTo_of_ofFloat? fraction positive bound
  | false =>
      obtain ⟨k, rounded⟩ := ofFloat?_round false d.wholePart.succ_pos (wholePart_lt fraction whole)
      exact (toNatUpTo_of_ofFloat? rounded rfl bound).trans
        (congrArg (min · bound) (Binary.wholePart_shifted _ _ k))

theorem ofBitVec_unpackSign {b : BitVec Format.binary64.numBits} (set : twoTo 63 ≤ b.toNat) :
    Sign.ofBitVec (unpackSign b) = .negative := by
  have bit : (unpackSign b).toNat = 1 := by
    have range : b.toNat < 2 ^ 64 := b.isLt
    change (BitVec.extractLsb 63 63 b).toNat = 1
    rw [BitVec.extractLsb_toNat, Nat.shiftRight_eq_div_pow]
    change 2 ^ 63 ≤ _ at set
    omega
  unfold Sign.ofBitVec
  rw [if_neg fun unset => by rw [unset] at bit; cases bit]

/-- Finite bits are those of a zero or of a number with a mantissa. -/
theorem unpack_kinds {b : BitVec Format.binary64.numBits}
    (finite : b.toNat / twoTo 52 % twoTo 11 ≠ 2047) :
    let s := Sign.ofBitVec (unpackSign b)
    UnpackedFloat.unpack .binary64 b = .zero s ∨
      (∃ m e pos, UnpackedFloat.unpack .binary64 b = .finite s m e pos) ∧
        (b.toNat / twoTo 52 % twoTo 11 = 0 → 0 < b.toNat % twoTo 52) := by
  rw [← toNat_unpackExponent] at finite ⊢
  rw [← toNat_unpackMantissa]
  have ordinary : unpackExponent b ≠ -1#_ := fun special => finite (by rw [special]; rfl)
  have read := unpacks b
  generalize UnpackedFloat.unpack .binary64 b = u at read
  cases read with
  | infinity special => exact absurd special ordinary
  | notANumber special => exact absurd special ordinary
  | zero => exact .inl rfl
  | subnormal pos => exact .inr ⟨⟨_, _, pos, rfl⟩, fun _ => pos⟩
  | normal pos _ large =>
      exact .inr ⟨⟨_, _, pos, rfl⟩, fun small => absurd (BitVec.eq_of_toNat_eq small) large⟩

theorem positive_of_ofFloat? {x : Float} {d : Binary} (fraction : Binary.ofFloat? x = some d)
    (least : ¬ x < 0) (nonzero : (x == 0) = false) : d.negative = false ∧ 0 < d.mantissa := by
  obtain ⟨⟨bits, valid⟩⟩ := x
  rw [lt_iff] at least
  change (UnpackedFloat.unpack .binary64 bits.toBitVec).beq (.zero .positive) = false at nonzero
  change ¬ (UnpackedFloat.unpack .binary64 bits.toBitVec).lt (.zero .positive) = true at least
  unfold Binary.ofFloat? at fraction
  change (let negative := decide (twoTo 63 ≤ bits.toNat)
    let biased := bits.toNat / twoTo 52 % twoTo 11
    let fraction := bits.toNat % twoTo 52
    if biased = 2047 then none
    else if biased = 0 then some ⟨negative, fraction, Binary.leastExponent⟩
    else some ⟨negative, twoTo 52 + fraction, (biased : Int) - 1075⟩) = some d at fraction
  dsimp only at fraction
  split at fraction
  · cases fraction
  · next finite =>
      have unsigned : ¬ twoTo 63 ≤ bits.toNat := by
        intro set
        have negative := ofBitVec_unpackSign (b := bits.toBitVec) set
        rcases unpack_kinds (b := bits.toBitVec) finite with zero | ⟨⟨m, e, pos, number⟩, -⟩
        · rw [zero, negative] at nonzero
          cases nonzero
        · rw [number, negative] at least
          exact least rfl
      have some : bits.toNat / twoTo 52 % twoTo 11 = 0 → 0 < bits.toNat % twoTo 52 := by
        rcases unpack_kinds (b := bits.toBitVec) finite with zero | ⟨-, some⟩
        · rw [zero] at nonzero
          cases nonzero
        · exact some
      split at fraction
      · next small =>
          cases fraction
          exact ⟨decide_eq_false unsigned, some small⟩
      · cases fraction
        exact ⟨decide_eq_false unsigned, Nat.lt_add_right _ (Nat.two_pow_pos 52)⟩

end Double

instance : Scalar.RoundsUp Float where
  one_le_ceil {x bound} number least some pos := by
    cases fraction : Binary.ofFloat? x with
    | none =>
        have most : Scalar.toNatUpTo bound (Scalar.ceil x) = bound := by
          change (Rounding.saturate 0 bound (Rounding.ceil x)).toNat = bound
          have same : Rounding.ceil x = x := by
            unfold Rounding.ceil Rounding.wholeWith
            rw [fraction]
          change x.isNaN = false at number
          unfold Rounding.saturate
          simp only [same, fraction, number, Bool.false_eq_true, if_false]
          exact (congrArg Int.toNat (if_neg least)).trans (Int.toNat_natCast bound)
        rwa [most]
    | some d =>
        obtain ⟨positive, mantissa⟩ := Double.positive_of_ofFloat? fraction least some
        have above : 0 < d.magnitude := by
          unfold Binary.magnitude
          positivity
        rw [Double.toNatUpTo_ceil fraction positive]
        exact Nat.le_min.mpr ⟨Nat.one_le_ceil_iff.mpr above, pos⟩

end Grimoire
