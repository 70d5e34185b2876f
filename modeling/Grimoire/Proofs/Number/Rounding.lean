import Grimoire.Proofs.Number.Neutral
import Grimoire.Proofs.Number.Order

/-! # Rounding and the order

What pools rely on when sums and differences are rounded: what is added up from numbers that are not
below zero is not below zero, and what is left of such a number when another is taken from it is not
above it.

For doubles the second law comes down to rounding.  An amount that is at most some double is rounded to
a double that is at most that one, since that one needs no rounding.
-/

namespace Grimoire

open Quantity (isNaN positivePart)

/-- Numbers whose sums and differences are rounded to the right side. -/
class Quantity.Rounded (α : Type) [Quantity α] : Prop extends Quantity.Ordered α where
  le_trans : ∀ {x y z : α}, x ≤ y → y ≤ z → x ≤ z
  isNaN_of_le : ∀ {x y : α}, x ≤ y → isNaN x = false ∧ isNaN y = false
  neg_nonneg : ∀ {x : α}, x < 0 → 0 ≤ -x
  add_nonneg : ∀ {x y : α}, 0 ≤ x → 0 ≤ y → 0 ≤ x + y
  sub_le : ∀ {x y : α}, 0 ≤ x → 0 ≤ y → 0 < x - y → x - y ≤ x

/-- Such numbers to which a finite one may be added. -/
class Scalar.Rounded (α : Type) [Scalar α] : Prop
    extends Quantity.Rounded α, Scalar.Finitary α where
  isNaN_add : ∀ {x y : α}, isNaN x = false → Scalar.isFinite y = true → isNaN (x + y) = false

namespace Quantity.Rounded

variable {α : Type} [Quantity α] [Rounded α] {x y : α}

theorem le_self (number : isNaN x = false) : x ≤ x := by
  by_cases less : x < x
  · exact Ordered.le_of_lt less
  · exact Ordered.le_of_not_lt number number less

/-- The smaller of two numbers is not above the second one, whatever the first one is. -/
theorem min_le (number : isNaN y = false) : Quantity.min x y ≤ y := by
  unfold Quantity.min
  by_cases less : x < y
  · rw [if_pos (by simp [less])]
    exact Ordered.le_of_lt less
  · rw [if_neg (by simp [less, number])]
    exact le_self number

omit [Rounded α] in
theorem min_nonneg (hx : 0 ≤ x) (hy : 0 ≤ y) : 0 ≤ Quantity.min x y := by
  unfold Quantity.min
  split
  · exact hx
  · exact hy

/-- A truncated difference is not above the number that was subtracted from. -/
theorem positivePart_sub_le (hx : 0 ≤ x) (hy : 0 ≤ y) : positivePart (x - y) ≤ x := by
  unfold positivePart
  by_cases positive : 0 < x - y
  · rw [if_pos positive]
    exact sub_le hx hy positive
  · rw [if_neg positive]
    exact hx

end Quantity.Rounded

/-! ## Doubles -/

namespace Double

open Float.Model UnpackedFloat

/-! ### Signs -/

/-- What is no number aside, every double has a sign. -/
inductive Signed (s : Sign) : UnpackedFloat → Prop where
  | infinity : Signed s (.infinity s)
  | zero : Signed s (.zero s)
  | finite (m : Nat) (e : Int) (pos : 0 < m) : Signed s (.finite s m e pos)

theorem Signed.isNaN_eq {s : Sign} {u : UnpackedFloat} (h : Signed s u) : u.isNaN = false := by
  cases h <;> rfl

theorem unpackSign_packComponents {spec : Format} {s : Sign} {exponent mantissa} :
    Sign.ofBitVec (unpackSign (packComponents spec s exponent mantissa)) = s := by
  have bit : unpackSign (packComponents spec s exponent mantissa) = s.toBitVec := by
    ext i hi
    have first : i = 0 := by omega
    subst first
    simp [unpackSign, packComponents, BitVec.getElem_append, BitVec.getLsbD_append]
  rw [bit]
  cases s <;> rfl

theorem Unpacks.signed {b : BitVec Format.binary64.numBits} {u : UnpackedFloat} (h : Unpacks b u)
    (number : unpackExponent b ≠ -1#_ ∨ unpackMantissa b = 0#_) :
    Signed (Sign.ofBitVec (unpackSign b)) u := by
  cases h with
  | infinity => exact .infinity
  | notANumber special something =>
      rcases number with ordinary | nothing
      · exact absurd special ordinary
      · exact absurd nothing something
  | zero => exact .zero
  | subnormal => exact .finite ..
  | normal => exact .finite ..

theorem signed_unpack {s : Sign} {exponent mantissa}
    (number : exponent ≠ -1#_ ∨ mantissa = 0#_) :
    Signed s (UnpackedFloat.unpack .binary64 (packComponents .binary64 s exponent mantissa)) := by
  have signed := (unpacks (packComponents .binary64 s exponent mantissa)).signed
  rw [unpackExponent_packComponents, unpackMantissa_packComponents, unpackSign_packComponents]
    at signed
  exact signed number

theorem Signed.pack {s : Sign} {u : UnpackedFloat} (h : Signed s u) :
    Signed s (Float.Model.pack u).unpack := by
  change Signed s (UnpackedFloat.unpack .binary64 (UnpackedFloat.pack .binary64 u))
  cases h with
  | infinity => exact signed_unpack (.inr rfl)
  | zero => exact signed_unpack (.inr rfl)
  | finite m e pos =>
      unfold UnpackedFloat.pack
      dsimp only
      split
      · exact signed_unpack (.inr rfl)
      · next small =>
          split
          · refine signed_unpack (.inl fun special => ?_)
            have bits := congrArg BitVec.toNat special
            rw [BitVec.toNat_ofNat, Nat.mod_eq_of_lt (by omega)] at bits
            change _ = 2047 at bits
            change ¬ 2048 ≤ _ at small
            omega
          · exact signed_unpack (.inl (by decide))

/-! ### Mantissas

A finite double has a mantissa of at most 53 bits.  It has fewer bits only where its exponent is the
least one, so there is a single way to write it.
-/

/-- Whether a mantissa and an exponent are those of a double, if the exponent is not too large. -/
structure Canonical (m : Nat) (e : Int) : Prop where
  mantissa : m < 2 ^ 53
  least : -1074 ≤ e
  normal : -1074 < e → 2 ^ 52 ≤ m

theorem targetExponent_eq (n : Nat) (e : Int) :
    Format.binary64.targetExponent (totalExponent n e) = max (n.log2 + e - 52) (-1074) := by
  simp only [Format.targetExponent, totalExponent, Format.mantissaBits, Format.minExponent]
  omega

theorem log2_shiftLeft {n : Nat} (pos : 0 < n) (k : Nat) : (n <<< k).log2 = n.log2 + k := by
  induction k with
  | zero => rfl
  | succ k ih =>
      have shifted : n <<< (k + 1) = 2 * n <<< k := by
        rw [Nat.shiftLeft_succ]
      have some : n <<< k ≠ 0 := by
        rw [Nat.shiftLeft_eq]
        exact (Nat.mul_pos pos (Nat.two_pow_pos k)).ne'
      rw [shifted, Nat.log2_two_mul some, ih, Nat.add_assoc]

/-! ### Shifting -/

theorem shiftRight_succ (m : ExtendedMantissa) (k : Nat) :
    m >>> (k + 1) = (m >>> k).shiftRightOne := rfl

theorem mantissa_shiftRight (m : ExtendedMantissa) (k : Nat) :
    (m >>> k).mantissa = m.mantissa / 2 ^ k := by
  induction k with
  | zero => exact (Nat.div_one _).symm
  | succ k ih =>
      rw [shiftRight_succ, Nat.pow_succ, ← Nat.div_div_eq_div_mul, ← ih]
      rfl

def exactly (n : Nat) : ExtendedMantissa := ⟨n, false, false⟩

theorem shiftRight_multiple (m k : Nat) : exactly (m * 2 ^ k) >>> k = exactly m := by
  induction k generalizing m with
  | zero =>
      have same : m * 2 ^ 0 = m := Nat.mul_one m
      rw [same]
      rfl
  | succ k ih =>
      have split : m * 2 ^ (k + 1) = m * 2 * 2 ^ k := by
        rw [Nat.pow_succ, Nat.mul_assoc, Nat.mul_comm 2]
      rw [split, shiftRight_succ, ih]
      simp [exactly, ExtendedMantissa.shiftRightOne]

theorem roundedMantissa_bounds (m : ExtendedMantissa) :
    m.mantissa ≤ m.roundedMantissa ∧ m.roundedMantissa ≤ m.mantissa + 1 := by
  obtain ⟨n, round, sticky⟩ := m
  cases round <;> cases sticky <;>
    simp [ExtendedMantissa.roundedMantissa, ExtendedMantissa.accuracy,
      Accuracy.roundToNearestEven]
  omega

/-- What is left of a mantissa when bits are dropped and it is rounded. -/
def rounded (n k : Nat) : Nat := (exactly n >>> k).roundedMantissa

theorem rounded_le {n k bound : Nat} (h : n ≤ bound * 2 ^ k) : rounded n k ≤ bound := by
  have most : n / 2 ^ k ≤ bound :=
    Nat.div_le_of_le_mul (by rwa [Nat.mul_comm] at h)
  rcases Nat.lt_or_eq_of_le most with less | exact
  · have up := (roundedMantissa_bounds (exactly n >>> k)).2
    rw [mantissa_shiftRight] at up
    exact up.trans less
  · have multiple : n = bound * 2 ^ k := by
      have low := Nat.div_mul_le_self n (2 ^ k)
      rw [exact] at low
      exact Nat.le_antisymm h low
    subst multiple
    unfold rounded
    rw [shiftRight_multiple]
    exact le_rfl

theorem le_rounded {n k bound : Nat} (h : bound * 2 ^ k ≤ n) : bound ≤ rounded n k := by
  have down := (roundedMantissa_bounds (exactly n >>> k)).1
  rw [mantissa_shiftRight] at down
  exact ((Nat.le_div_iff_mul_le (Nat.two_pow_pos k)).mpr h).trans down

/-! ### Rounding -/

theorem shiftToTargetExponent_eq {n : Nat} {e place : Int} {k : Nat}
    (target : max (n.log2 + e - 52) (-1074) = place) (shift : (place - e).toNat = k) :
    shiftToTargetExponent .binary64 n e .exact = (exactly n >>> k, e + k) := by
  unfold shiftToTargetExponent
  rw [targetExponent_eq, target]
  subst shift
  rfl

theorem shiftToTargetExponent_of_lt {m : Nat} {e : Int} (small : m < 2 ^ 53) (least : -1074 ≤ e) :
    shiftToTargetExponent .binary64 m e .exact = (exactly m, e) := by
  have bits : m.log2 ≤ 52 := by
    by_cases zero : m = 0
    · simp [zero]
    · have := (Nat.log2_lt zero).mpr small
      omega
  have shift : (max (m.log2 + e - 52) (-1074) - e).toNat = 0 := by omega
  rw [shiftToTargetExponent_eq rfl shift]
  exact congrArg (Prod.mk _) (Int.add_zero e)

theorem shiftToTargetExponent_carry {e : Int} (least : -1074 ≤ e) :
    shiftToTargetExponent .binary64 (2 ^ 53) e .exact = (exactly (2 ^ 52), e + 1) := by
  have place : max (((2 ^ 53 : Nat).log2 : Int) + e - 52) (-1074) = e + 1 := by
    rw [Nat.log2_two_pow]
    omega
  have shift : (e + 1 - e).toNat = 1 := by omega
  rw [shiftToTargetExponent_eq place shift]
  rfl

theorem roundWithAccuracy_cases (s : Sign) {n : Nat} {e place : Int} {k : Nat}
    (target : max (n.log2 + e - 52) (-1074) = place) (above : place = e + k)
    (fits : rounded n k ≤ 2 ^ 53) :
    roundWithAccuracy .binary64 s n e .exact = .zero s ∨
      (∃ pos, roundWithAccuracy .binary64 s n e .exact = .finite s (rounded n k) place pos ∧
        rounded n k < 2 ^ 53) ∨
      ∃ pos, roundWithAccuracy .binary64 s n e .exact = .finite s (2 ^ 52) (place + 1) pos ∧
        rounded n k = 2 ^ 53 := by
  have shift : (place - e).toNat = k := by omega
  have least : -1074 ≤ place := by omega
  unfold roundWithAccuracy
  rw [shiftToTargetExponent_eq target shift, ← above]
  change
    let r := (let (em, e') := shiftToTargetExponent .binary64 (rounded n k) place .exact
      if h : em.mantissa = 0 then UnpackedFloat.zero s
      else .finite s em.mantissa e' (Nat.pos_of_ne_zero h))
    r = .zero s ∨ (∃ pos, r = .finite s (rounded n k) place pos ∧ rounded n k < 2 ^ 53) ∨
      ∃ pos, r = .finite s (2 ^ 52) (place + 1) pos ∧ rounded n k = 2 ^ 53
  rcases Nat.lt_or_eq_of_le fits with small | carry
  · rw [shiftToTargetExponent_of_lt small least]
    by_cases zero : rounded n k = 0
    · exact .inl (dif_pos zero)
    · exact .inr (.inl ⟨Nat.pos_of_ne_zero zero, dif_neg zero, small⟩)
  · rw [carry, shiftToTargetExponent_carry least]
    exact .inr (.inr ⟨by decide, rfl, rfl⟩)

theorem round_eq (s : Sign) {n a : Nat} {e place : Int}
    (target : max (n.log2 + e - 52) (-1074) = place) (added : (e - place).toNat = a) :
    UnpackedFloat.round .binary64 s n e =
      roundWithAccuracy .binary64 s (n <<< a) (e - a) .exact := by
  unfold UnpackedFloat.round
  rw [targetExponent_eq, target]
  subst added
  rfl

/-- A positive amount that is at most a double is rounded to zero or to a double that is at most that
one. -/
theorem round_le (s : Sign) {n M : Nat} {e E : Int} (pos : 0 < n) (canonical : Canonical M E)
    (le : e ≤ E) (bound : n ≤ M * 2 ^ (E - e).toNat) :
    UnpackedFloat.round .binary64 s n e = .zero s ∨
      ∃ m f pos, UnpackedFloat.round .binary64 s n e = .finite s m f pos ∧ Canonical m f ∧
        (f < E ∨ f = E ∧ m ≤ M) := by
  obtain ⟨mantissa, least, normal⟩ := canonical
  obtain ⟨place, target⟩ : ∃ place, max (n.log2 + e - 52) (-1074) = place := ⟨_, rfl⟩
  obtain ⟨a, added⟩ : ∃ a, (e - place).toNat = a := ⟨_, rfl⟩
  obtain ⟨k, dropped⟩ : ∃ k : Nat, place = e - a + k := ⟨(place - (e - a)).toNat, by omega⟩
  have bits : (n <<< a).log2 = n.log2 + a := log2_shiftLeft pos a
  have some : n <<< a ≠ 0 := (Nat.shiftLeft_pos_iff.mpr pos).ne'
  have target' : max ((n <<< a).log2 + (e - a) - 52) (-1074) = place := by omega
  have inside : place ≤ E := by
    have magnitude : n.log2 < 53 + (E - e).toNat := by
      rw [Nat.log2_lt pos.ne', Nat.pow_add]
      exact bound.trans_lt (Nat.mul_lt_mul_of_pos_right mantissa (Nat.two_pow_pos _))
    omega
  have fits : rounded (n <<< a) k ≤ 2 ^ 53 := by
    have short : (n <<< a).log2 < 53 + k := by omega
    rw [Nat.log2_lt some, Nat.pow_add] at short
    exact rounded_le short.le
  have least_place (same : place = E) : rounded (n <<< a) k ≤ M := by
    have none : a = 0 := by omega
    have all : (E - e).toNat = k := by omega
    subst none
    rw [all] at bound
    exact rounded_le bound
  rw [round_eq s target added]
  rcases roundWithAccuracy_cases s target' dropped fits with zero | ⟨some', eq, small⟩ |
    ⟨some', eq, carry⟩
  · exact .inl zero
  · refine .inr ⟨_, _, some', eq, ⟨small, by omega, fun above => ?_⟩, ?_⟩
    · have full : (n <<< a).log2 = 52 + k := by omega
      have low := Nat.log2_self_le some
      rw [full, Nat.pow_add] at low
      exact le_rounded low
    · exact (Int.lt_or_eq_of_le inside).imp_right fun same => ⟨same, least_place same⟩
  · refine .inr ⟨_, _, some', eq, ⟨by decide, by omega, fun _ => le_rfl⟩, ?_⟩
    by_cases next : place + 1 < E
    · exact .inl next
    · have below : place ≠ E := fun same => by
        have most := least_place same
        omega
      exact .inr ⟨by omega, normal (by omega)⟩

/-! ### Packing -/

theorem toNat_implicit (m : BitVec 52) : (1#1 ++ m).toNat = 2 ^ 52 + m.toNat := by
  have short := m.isLt
  rw [BitVec.toNat_append, Nat.shiftLeft_eq, Nat.mul_comm, ← Nat.two_pow_add_eq_or_of_lt short]
  rfl

theorem canonical_unpack {b : BitVec Format.binary64.numBits} {s : Sign} {m : Nat} {e : Int}
    {pos : 0 < m} (h : UnpackedFloat.unpack .binary64 b = .finite s m e pos) :
    Canonical m e ∧ e ≤ 971 := by
  have read := unpacks b
  rw [h] at read
  have width : (unpackMantissa b).toNat < 2 ^ 52 := (unpackMantissa b).isLt
  have range : (unpackExponent b).toNat < 2048 := (unpackExponent b).isLt
  cases read with
  | subnormal =>
      exact ⟨⟨by omega, by decide, fun above => absurd above (by decide)⟩, by decide⟩
  | normal _ ordinary large =>
      have top : (unpackExponent b).toNat ≠ 2047 := fun same =>
        ordinary (BitVec.eq_of_toNat_eq same)
      have bottom : (unpackExponent b).toNat ≠ 0 := fun same => large (BitVec.eq_of_toNat_eq same)
      have joined := toNat_implicit (unpackMantissa b)
      exact ⟨⟨by omega, by omega, fun _ => by omega⟩, by omega⟩

theorem finite_congr {s : Sign} {m m' : Nat} {e e' : Int} {pos : 0 < m} {pos' : 0 < m'}
    (mantissa : m = m') (exponent : e = e') :
    UnpackedFloat.finite s m e pos = .finite s m' e' pos' := by
  subst mantissa exponent
  rfl

theorem unpack_normal (s : Sign) {m : Nat} {e : Int} (pos : 0 < m) (full : 2 ^ 52 ≤ m)
    (mantissa : m < 2 ^ 53) (least : -1074 ≤ e) (most : e ≤ 971) :
    UnpackedFloat.unpack .binary64 (packComponents .binary64 s
      (BitVec.ofNat _ (e + 1075).toNat) (BitVec.ofNat _ m)) = .finite s m e pos := by
  have exponent : (BitVec.ofNat 11 (e + 1075).toNat).toNat = (e + 1075).toNat := by
    rw [BitVec.toNat_ofNat]
    omega
  have ordinary : BitVec.ofNat 11 (e + 1075).toNat ≠ -1#11 := fun same => by
    rw [same] at exponent
    change 2047 = _ at exponent
    omega
  have large : BitVec.ofNat 11 (e + 1075).toNat ≠ 0#11 := fun same => by
    rw [same] at exponent
    change 0 = _ at exponent
    omega
  unfold UnpackedFloat.unpack
  simp only [unpackExponent_packComponents, unpackMantissa_packComponents,
    unpackSign_packComponents]
  rw [if_neg ordinary, if_neg large]
  refine finite_congr ?_ ?_
  · rw [toNat_implicit, BitVec.toNat_ofNat]
    omega
  · rw [exponent]
    change _ - (1075 : Int) = e
    omega

theorem unpack_subnormal (s : Sign) {m : Nat} (pos : 0 < m) (short : m < 2 ^ 52) :
    UnpackedFloat.unpack .binary64 (packComponents .binary64 s 0#_ (BitVec.ofNat _ m)) =
      .finite s m (-1074) pos := by
  have written : (BitVec.ofNat 52 m).toNat = m := by
    rw [BitVec.toNat_ofNat]
    omega
  have some : BitVec.ofNat 52 m ≠ 0#52 := fun same => by
    rw [same] at written
    change 0 = m at written
    omega
  unfold UnpackedFloat.unpack
  simp only [unpackExponent_packComponents, unpackMantissa_packComponents,
    unpackSign_packComponents]
  rw [if_neg (by decide), if_pos trivial, dif_neg some]
  exact finite_congr written rfl

theorem unpack_pack {s : Sign} {m : Nat} {e : Int} (pos : 0 < m) (canonical : Canonical m e)
    (most : e ≤ 971) :
    (Float.Model.pack (.finite s m e pos)).unpack = .finite s m e pos := by
  obtain ⟨mantissa, least, normal⟩ := canonical
  change UnpackedFloat.unpack .binary64 (UnpackedFloat.pack .binary64 (.finite s m e pos)) = _
  have bias : e + (Format.binary64.exponentBias : Int) +
      Format.binary64.mantissaBitsWithoutImplicit = e + 1075 := Int.add_assoc ..
  have room : ¬ 2 ^ Format.binary64.exponentBits ≤ (e + 1075).toNat + 1 := by
    change ¬ 2048 ≤ _
    omega
  unfold UnpackedFloat.pack
  rw [bias]
  dsimp only
  rw [if_neg room]
  by_cases full : 2 ^ 52 ≤ m
  · have bits : m.log2 + 1 = Format.binary64.mantissaBits :=
      congrArg (· + 1) ((Nat.log2_eq_iff pos.ne').mpr ⟨full, mantissa⟩)
    rw [if_pos bits]
    exact unpack_normal s pos full mantissa least most
  · have bits : m.log2 + 1 ≠ Format.binary64.mantissaBits := by
      have short := (Nat.log2_lt pos.ne').mpr (Nat.lt_of_not_le full)
      change _ ≠ 53
      omega
    have lowest : e = -1074 := by
      by_contra other
      exact full (normal (by omega))
    subst lowest
    rw [if_neg bits]
    exact unpack_subnormal s pos (Nat.lt_of_not_le full)

/-! ### Sums and differences -/

theorem signed_round (s : Sign) (n : Nat) (e : Int) :
    Signed s (UnpackedFloat.round .binary64 s n e) := by
  unfold UnpackedFloat.round roundWithAccuracy
  dsimp only
  split
  · exact .zero
  · exact .finite ..

theorem signed_normalize (m e : Int) :
    ∃ s, Signed s (UnpackedFloat.normalize .binary64 m e .positive) := by
  unfold UnpackedFloat.normalize
  split
  · exact ⟨_, signed_round ..⟩
  · exact ⟨_, .zero⟩
  · exact ⟨_, signed_round ..⟩

theorem normalize_neg {m : Int} (negative : m < 0) (e : Int) :
    UnpackedFloat.normalize .binary64 m e .positive =
      UnpackedFloat.round .binary64 .negative (-m).toNat e := by
  unfold UnpackedFloat.normalize
  rw [show compare m 0 = .lt from compare_lt_iff_lt.mpr negative]

theorem normalize_pos {m : Int} (positive : 0 < m) (e : Int) :
    UnpackedFloat.normalize .binary64 m e .positive =
      UnpackedFloat.round .binary64 .positive m.toNat e := by
  unfold UnpackedFloat.normalize
  rw [show compare m 0 = .gt from compare_gt_iff_gt.mpr positive]

/-- What a double is that is not below zero. -/
inductive Nonneg : UnpackedFloat → Prop where
  | positive {u} (signed : Signed .positive u) : Nonneg u
  | negativeZero : Nonneg (.zero .negative)

theorem zero_le_iff {u : UnpackedFloat} :
    (UnpackedFloat.zero .positive).le u = true ↔ Nonneg u := by
  constructor
  · intro le
    cases u with
    | notANumber => cases le
    | infinity s => cases s with
      | negative => cases le
      | positive => exact .positive .infinity
    | zero s => cases s with
      | negative => exact .negativeZero
      | positive => exact .positive .zero
    | finite s m e pos => cases s with
      | negative => cases le
      | positive => exact .positive (.finite ..)
  · rintro (⟨⟨⟩⟩ | ⟨⟩) <;> rfl

theorem Nonneg.pack {u : UnpackedFloat} (h : Nonneg u) : Nonneg (Float.Model.pack u).unpack := by
  cases h with
  | positive signed => exact .positive signed.pack
  | negativeZero => exact .negativeZero

theorem signed_of_lt_zero {u : UnpackedFloat} (h : u.lt (.zero .positive) = true) :
    Signed .negative u := by
  cases u with
  | notANumber => cases h
  | zero => cases h
  | infinity s => cases s with
    | negative => exact .infinity
    | positive => cases h
  | finite s m e pos => cases s with
    | negative => exact .finite ..
    | positive => cases h

theorem Signed.neg {u : UnpackedFloat} (h : Signed .negative u) : Signed .positive u.neg := by
  cases h with
  | infinity => exact .infinity
  | zero => exact .zero
  | finite => exact .finite ..

theorem add_finite {m m' : Nat} {e e' : Int} {pos : 0 < m} {pos' : 0 < m'} :
    UnpackedFloat.add .binary64 (.finite .positive m e pos) (.finite .positive m' e' pos') =
      UnpackedFloat.normalize .binary64
        ((m <<< (e - min e e').toNat : Nat) + (m' <<< (e' - min e e').toNat : Nat)) (min e e')
        .positive := rfl

theorem sub_finite {m m' : Nat} {e e' : Int} {pos : 0 < m} {pos' : 0 < m'} :
    UnpackedFloat.sub .binary64 (.finite .positive m e pos) (.finite .positive m' e' pos') =
      UnpackedFloat.normalize .binary64
        ((m <<< (e - min e e').toNat : Nat) - (m' <<< (e' - min e e').toNat : Nat)) (min e e')
        .positive := rfl

theorem Nonneg.add {u v : UnpackedFloat} (hu : Nonneg u) (hv : Nonneg v) :
    Nonneg (UnpackedFloat.add .binary64 u v) := by
  rcases hu with ⟨_ | _ | ⟨m, e, pos⟩⟩ | _
  · rcases hv with ⟨⟨⟩⟩ | ⟨⟩ <;> exact .positive .infinity
  · rcases hv with ⟨⟨⟩⟩ | ⟨⟩
    · exact .positive .infinity
    · exact .positive .zero
    · exact .positive (.finite ..)
    · exact .positive .zero
  · rcases hv with ⟨_ | _ | ⟨m', e', pos'⟩⟩ | ⟨⟩
    · exact .positive .infinity
    · exact .positive (.finite ..)
    · have some : 0 < m <<< (e - min e e').toNat := Nat.shiftLeft_pos_iff.mpr pos
      refine .positive ?_
      rw [add_finite, normalize_pos
        (Int.add_pos_of_pos_of_nonneg (Int.natCast_pos.mpr some) (Int.natCast_nonneg _))]
      exact signed_round ..
    · exact .positive (.finite ..)
  · rcases hv with ⟨⟨⟩⟩ | ⟨⟩
    · exact .positive .infinity
    · exact .positive .zero
    · exact .positive (.finite ..)
    · exact .negativeZero

theorem signed_add {u v : UnpackedFloat} (number : u.isNaN = false) (finite : v.isFinite = true) :
    ∃ s, Signed s (UnpackedFloat.add .binary64 u v) := by
  cases v with
  | infinity => cases finite
  | notANumber => cases finite
  | zero t =>
      cases u with
      | notANumber => cases number
      | infinity s => exact ⟨s, .infinity⟩
      | zero s => cases s <;> cases t <;> exact ⟨_, .zero⟩
      | finite s => exact ⟨s, .finite ..⟩
  | finite t =>
      cases u with
      | notANumber => cases number
      | infinity s => exact ⟨s, .infinity⟩
      | zero => exact ⟨t, .finite ..⟩
      | finite => exact signed_normalize ..

/-- What a double that is not below zero can come to when another one is taken from it. -/
inductive Left (u : UnpackedFloat) : UnpackedFloat → Prop where
  | nothing : Left u .notANumber
  | below {w} (signed : Signed .negative w) : Left u w
  | zero : Left u (.zero .positive)
  | all : Left u u
  | some {m f pos M E pos'} (whole : u = .finite .positive M E pos') (canonical : Canonical m f)
      (le : f < E ∨ f = E ∧ m ≤ M) : Left u (.finite .positive m f pos)

theorem left_finite {m m' : Nat} {e e' : Int} {pos : 0 < m} (pos' : 0 < m')
    (canonical : Canonical m e) :
    Left (.finite .positive m e pos) (UnpackedFloat.sub .binary64 (.finite .positive m e pos)
      (.finite .positive m' e' pos')) := by
  rw [sub_finite]
  have whole : m <<< (e - min e e').toNat = m * 2 ^ (e - min e e').toNat := Nat.shiftLeft_eq ..
  generalize m' <<< (e' - min e e').toNat = b
  generalize m <<< (e - min e e').toNat = a at whole
  rcases lt_trichotomy (a - b : Int) 0 with less | same | more
  · rw [normalize_neg less]
    exact .below (signed_round ..)
  · rw [same]
    exact .zero
  · have positive : 0 < (a - b : Int).toNat := by omega
    have bound : (a - b : Int).toNat ≤ m * 2 ^ (e - min e e').toNat := by omega
    have finer : min e e' ≤ e := Int.min_le_left ..
    rw [normalize_pos more]
    rcases round_le .positive positive canonical finer bound with zero | ⟨n, f, some, eq, form, le⟩
    · rw [zero]
      exact .zero
    · rw [eq]
      exact .some rfl form le

theorem Nonneg.sub {u v : UnpackedFloat} (hu : Nonneg u) (hv : Nonneg v)
    (canonical : ∀ {m e pos}, u = .finite .positive m e pos → Canonical m e) :
    Left u (UnpackedFloat.sub .binary64 u v) := by
  rcases hu with ⟨_ | _ | ⟨m, e, pos⟩⟩ | _
  · rcases hv with ⟨⟨⟩⟩ | ⟨⟩
    · exact .nothing
    · exact .all
    · exact .all
    · exact .all
  · rcases hv with ⟨⟨⟩⟩ | ⟨⟩
    · exact .below .infinity
    · exact .zero
    · exact .below (.finite ..)
    · exact .zero
  · rcases hv with ⟨_ | _ | ⟨m', e', pos'⟩⟩ | ⟨⟩
    · exact .below .infinity
    · exact .all
    · exact left_finite pos' (canonical rfl)
    · exact .all
  · rcases hv with ⟨⟨⟩⟩ | ⟨⟩
    · exact .below .infinity
    · exact .below .zero
    · exact .below (.finite ..)
    · exact .zero

theorem not_zero_lt_of_signed {u : UnpackedFloat} (h : Signed .negative u) :
    (UnpackedFloat.zero .positive).lt u = false := by
  cases h <;> rfl

theorem Nonneg.isNaN_eq {u : UnpackedFloat} (h : Nonneg u) : u.isNaN = false := by
  rcases h with ⟨⟨⟩⟩ | ⟨⟩ <;> rfl

theorem le_self {u : UnpackedFloat} (number : u.isNaN = false) : u.le u = true := by
  cases less : u.lt u with
  | true => exact le_of_lt less
  | false => exact le_of_not_lt number number less

theorem finite_le_finite {m m' : Nat} {e e' : Int} {pos : 0 < m} {pos' : 0 < m'}
    (h : e < e' ∨ e = e' ∧ m ≤ m') :
    (UnpackedFloat.finite .positive m e pos).le (.finite .positive m' e' pos') = true := by
  change ((compare e e').then (compare m m')).isLE = true
  rcases h with less | ⟨rfl, le⟩
  · rw [compare_lt_iff_lt.mpr less]
    rfl
  · rw [Std.compare_self]
    exact Nat.isLE_compare.mpr le

/-- A difference of doubles that are not below zero is at most the first one, if it is above zero. -/
theorem sub_le {m : Float.Model} {v : UnpackedFloat} (hu : Nonneg m.unpack) (hv : Nonneg v)
    (positive : (UnpackedFloat.zero .positive).lt
      (Float.Model.pack (UnpackedFloat.sub .binary64 m.unpack v)).unpack = true) :
    (Float.Model.pack (UnpackedFloat.sub .binary64 m.unpack v)).unpack.le m.unpack = true := by
  have left := hu.sub hv fun whole => (canonical_unpack whole).1
  generalize UnpackedFloat.sub .binary64 m.unpack v = w at left positive
  cases left with
  | nothing => cases positive
  | below signed =>
      rw [not_zero_lt_of_signed signed.pack] at positive
      cases positive
  | zero => cases positive
  | all =>
      rw [pack_unpack] at positive ⊢
      exact le_self hu.isNaN_eq
  | some whole canonical le =>
      have most := (canonical_unpack whole).2
      rw [unpack_pack _ canonical (by omega), whole]
      exact finite_le_finite le

end Double

open Double in
instance : Quantity.Rounded Float where
  le_trans h h' := (le_iff _ _).mpr (le_trans ((le_iff _ _).mp h) ((le_iff _ _).mp h'))
  isNaN_of_le {x y} h := by
    have numbers := (le_iff_rank _ _).mp ((le_iff x y).mp h)
    exact ⟨numbers.1, numbers.2.1⟩
  neg_nonneg {x} h := by
    have negative : Signed .negative x.toModel.unpack := signed_of_lt_zero ((lt_iff x 0).mp h)
    exact (le_iff 0 (-x)).mpr (zero_le_iff.mpr (.positive negative.neg.pack))
  add_nonneg {x y} hx hy := by
    have first := zero_le_iff.mp ((le_iff 0 x).mp hx)
    have second := zero_le_iff.mp ((le_iff 0 y).mp hy)
    exact (le_iff 0 (x + y)).mpr (zero_le_iff.mpr (first.add second).pack)
  sub_le {x y} hx hy positive := by
    have first := zero_le_iff.mp ((le_iff 0 x).mp hx)
    have second := zero_le_iff.mp ((le_iff 0 y).mp hy)
    exact (le_iff (x - y) x).mpr (Double.sub_le first second ((lt_iff 0 (x - y)).mp positive))

instance : Scalar.Rounded Float where
  isNaN_add {x y} number finite := by
    obtain ⟨s, signed⟩ := Double.signed_add (u := x.toModel.unpack) (v := y.toModel.unpack) number
      finite
    exact signed.pack.isNaN_eq

end Grimoire
