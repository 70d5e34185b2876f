import Grimoire.Proofs.Number.Contagion

/-! # The nearest double

A finite double stands for a rational number, `Double.value`.  A whole number that a mantissa has room
for is a double; a longer one is rounded to a multiple of the power of two that its last bits kept stand
for.  All doubles that are as large are such multiples, so none of them is nearer.

Rounding to a whole number goes the other way: it is exact, and a half goes away from zero.
-/

namespace Grimoire

def Binary.value (d : Binary) : ℚ := if d.negative then -d.magnitude else d.magnitude

namespace Double

/-- The number that a finite double stands for; zero for the others. -/
def value (x : Float) : ℚ := ((Binary.ofFloat? x).map Binary.value).getD 0

/-- Whether no finite double is nearer to a number, and one that is just as near has an odd mantissa. -/
structure IsNearest (x : Float) (q : ℚ) : Prop where
  finite : x.isFinite = true
  least : ∀ y : Float, y.isFinite = true → |value x - q| ≤ |value y - q|
  even : ∀ y : Float, y.isFinite = true → |value y - q| = |value x - q| → value y ≠ value x →
    x.toBits.toNat % 2 = 0

theorem value_of_ofFloat? {x : Float} {d : Binary} (fraction : Binary.ofFloat? x = some d) :
    value x = d.value := by
  unfold value
  rw [fraction]
  rfl

end Double

/-! ## Multiples of a power of two -/

namespace Binary

theorem magnitude_nonneg (d : Binary) : 0 ≤ d.magnitude := by
  unfold magnitude
  positivity

theorem abs_value (d : Binary) : |d.value| = d.magnitude := by
  unfold value
  split
  · rw [abs_neg, abs_of_nonneg d.magnitude_nonneg]
  · exact abs_of_nonneg d.magnitude_nonneg

theorem exists_multiple {d : Binary} (short : d.mantissa < 2 ^ 53) {k : Nat}
    (large : 2 ^ 52 * 2 ^ k ≤ d.magnitude) : ∃ m : Int, d.value = m * 2 ^ k := by
  have place : (k : Int) ≤ d.exponent := by
    by_contra low
    have mantissa : (d.mantissa : ℚ) < 2 ^ 53 := by exact_mod_cast short
    have power : (2 : ℚ) ^ d.exponent ≤ 2 ^ ((k : Int) - 1) :=
      zpow_le_zpow_right₀ one_le_two (by omega)
    have below : d.magnitude < 2 ^ 52 * 2 ^ k := by
      calc
        (d.mantissa : ℚ) * 2 ^ d.exponent < 2 ^ 53 * 2 ^ d.exponent :=
          mul_lt_mul_of_pos_right mantissa (by positivity)
        _ ≤ 2 ^ 53 * 2 ^ ((k : Int) - 1) := mul_le_mul_of_nonneg_left power (by positivity)
        _ = 2 ^ 52 * 2 ^ k := by
          rw [zpow_sub_one₀ two_ne_zero, zpow_natCast]
          ring
    exact absurd large (not_le.mpr below)
  obtain ⟨j, sum⟩ := Int.eq_ofNat_of_zero_le (Int.sub_nonneg_of_le place)
  have split : d.magnitude = (d.mantissa * 2 ^ j : Nat) * 2 ^ k := by
    unfold magnitude
    rw [show d.exponent = (j : Int) + k by omega, zpow_add₀ two_ne_zero, zpow_natCast, zpow_natCast]
    push_cast
    ring
  unfold value
  split
  · exact ⟨-(d.mantissa * 2 ^ j : Nat), by rw [split]; push_cast; ring⟩
  · exact ⟨(d.mantissa * 2 ^ j : Nat), by rw [split]; push_cast; ring⟩

/-- Rounding away the last bits gets no further than half their unit, and that far only if the
quotient is even. -/
theorem halveEven_near (n k : Nat) :
    2 * |((halveEven n k * 2 ^ k : Nat) : Int) - n| ≤ (2 ^ k : Nat) ∧
      (2 * |((halveEven n k * 2 ^ k : Nat) : Int) - n| = (2 ^ k : Nat) → halveEven n k % 2 = 0) := by
  have parts := Nat.div_add_mod' n (2 ^ k)
  have short := Nat.mod_lt n (Nat.two_pow_pos k)
  have unit : twoTo k = 2 ^ k := rfl
  unfold halveEven
  simp only [unit]
  split
  · next up =>
      rw [Nat.add_mul, Nat.one_mul, abs_of_nonneg (by omega)]
      omega
  · next down =>
      rw [abs_of_nonpos (by omega)]
      omega

theorem halveEven_bounds {n k low high : Nat} (least : low * 2 ^ k ≤ n) (most : n < high * 2 ^ k) :
    low ≤ halveEven n k ∧ halveEven n k ≤ high := by
  have quotient : low ≤ n / 2 ^ k ∧ n / 2 ^ k < high :=
    ⟨(Nat.le_div_iff_mul_le (Nat.two_pow_pos k)).mpr least,
      (Nat.div_lt_iff_lt_mul (Nat.two_pow_pos k)).mpr most⟩
  have unit : twoTo k = 2 ^ k := rfl
  unfold halveEven
  simp only [unit]
  split <;> omega

theorem magnitudeBits_long {n k : Nat} (length : n.log2 = 52 + k) (short : k ≤ 64) :
    magnitudeBits n 0 = (k + 1074) * 2 ^ 52 + halveEven n k ∧
      2 ^ 52 ≤ halveEven n k ∧ halveEven n k ≤ 2 ^ 53 := by
  have nonzero : n ≠ 0 := by
    rintro rfl
    simp at length
    omega
  have least : 2 ^ 52 * 2 ^ k ≤ n := by
    have low := Nat.log2_self_le nonzero
    rwa [length, Nat.pow_add] at low
  have most : n < 2 ^ 53 * 2 ^ k := by
    have high := @Nat.lt_log2_self n
    rwa [length, show 52 + k + 1 = 53 + k by omega, Nat.pow_add] at high
  have bounds := halveEven_bounds least most
  refine ⟨?_, bounds⟩
  have place : max ((0 : Int) + (n.log2 : Int) - 52) leastExponent = k := by
    unfold leastExponent
    omega
  have base : ((k : Int) - leastExponent).toNat = k + 1074 := by
    unfold leastExponent
    omega
  have kept : (if (k : Int) ≤ 0 then n * twoTo ((0 : Int) - k).toNat
      else halveEven n ((k : Int) - 0).toNat) = halveEven n k := by
    cases k with
    | zero => simp [halveEven, twoTo, Nat.mod_one]
    | succ k =>
        rw [if_neg (by omega), Int.sub_zero, Int.toNat_natCast]
  unfold magnitudeBits
  rw [if_neg nonzero]
  simp only [place, base, kept]
  change min ((k + 1074) * 2 ^ 52 + halveEven n k) (2047 * 2 ^ 52) = _
  omega

end Binary

/-- A multiple of a unit within half a unit of a large number is the nearest one among all numbers that
are smaller than it or multiples as well. -/
theorem nearest_multiple {q u v : ℚ} {h : Int} (pos : 0 < u) (close : 2 * |h * u - q| ≤ u)
    (large : 2 ^ 52 * u ≤ |q|) (grid : 2 ^ 52 * u ≤ |v| → ∃ m : Int, v = m * u) :
    |h * u - q| ≤ |v - q| ∧ (|v - q| = |h * u - q| → v ≠ h * u → 2 * |h * u - q| = u) := by
  have multiple (m : Int) : m = h ∨ u - |h * u - q| ≤ |m * u - q| := by
    refine or_iff_not_imp_left.mpr fun apart => ?_
    have one : (1 : ℚ) ≤ |(m : ℚ) - h| := by
      exact_mod_cast Int.one_le_abs (sub_ne_zero.mpr apart)
    have gap : u ≤ |(m * u - q) - (h * u - q)| := by
      rw [sub_sub_sub_cancel_right, ← sub_mul, abs_mul, abs_of_pos pos]
      exact le_mul_of_one_le_left pos.le one
    have triangle := abs_sub (m * u - q) (h * u - q)
    linarith
  by_cases small : 2 ^ 52 * u ≤ |v|
  · obtain ⟨m, rfl⟩ := grid small
    rcases multiple m with rfl | far
    · exact ⟨le_rfl, fun _ apart => absurd rfl apart⟩
    · exact ⟨by linarith, fun same _ => by linarith⟩
  · obtain ⟨s, unit, own⟩ : ∃ s : Int, |s| = 1 ∧ q = s * |q| := by
      rcases abs_choice q with positive | negative
      · exact ⟨1, rfl, by rw [positive]; simp⟩
      · exact ⟨-1, rfl, by rw [negative]; simp⟩
    have edge : |((s * 2 ^ 52 : Int) : ℚ) * u - q| = |q| - 2 ^ 52 * u := by
      have factor : ((s * 2 ^ 52 : Int) : ℚ) * u - q = -(s * (|q| - 2 ^ 52 * u)) := by
        nth_rewrite 1 [own]
        push_cast
        ring
      have size : |(s : ℚ)| = 1 := by exact_mod_cast unit
      rw [factor, abs_neg, abs_mul, size, one_mul, abs_of_nonneg (by linarith)]
    have nearer : |h * u - q| ≤ |q| - 2 ^ 52 * u := by
      rcases multiple (s * 2 ^ 52) with same | far
      · rw [← edge, same]
      · linarith
    have further : |q| - |v| ≤ |v - q| := by
      rw [abs_sub_comm]
      exact abs_sub_abs_le_abs_sub q v
    exact ⟨by linarith, fun same _ => absurd same (by linarith)⟩

/-! ## Whole numbers as doubles -/

namespace Double

theorem toBits_mod_two {x : Float} {d : Binary} (fraction : Binary.ofFloat? x = some d) :
    x.toBits.toNat % 2 = d.mantissa % 2 := by
  unfold Binary.ofFloat? at fraction
  have low : twoTo 52 = 2 ^ 52 := rfl
  simp only [low] at fraction
  split at fraction
  · cases fraction
  · split at fraction <;>
    · cases fraction
      dsimp only
      omega

theorem ofFloat?_carried (negative : Bool) {place kept : Nat} (low : 2 ^ 52 ≤ kept)
    (high : kept ≤ 2 ^ 53) (finite : place < 2045) :
    ∃ d, Binary.ofFloat? (Float.ofBits (UInt64.ofNat
        ((if negative then twoTo 63 else 0) + (place * 2 ^ 52 + kept)))) = some d ∧
      d.negative = negative ∧ d.mantissa % 2 = kept % 2 ∧
      d.magnitude = kept * 2 ^ ((place : Int) - 1074) := by
  by_cases carry : kept = 2 ^ 53
  · have bits : place * 2 ^ 52 + kept = (place + 2) * 2 ^ 52 + 0 := by omega
    refine ⟨_, ofFloat?_ofBits negative bits (by omega) (by omega) (by omega), rfl, ?_, ?_⟩
    · change (2 ^ 52 + 0) % 2 = kept % 2
      omega
    · change ((2 ^ 52 + 0 : Nat) : ℚ) * 2 ^ (((place + 2 : Nat) : Int) - 1075) = _
      rw [carry, show ((place + 2 : Nat) : Int) - 1075 = ((place : Int) - 1074) + 1 by omega,
        zpow_add_one₀ two_ne_zero]
      push_cast
      ring
  · have bits : place * 2 ^ 52 + kept = (place + 1) * 2 ^ 52 + (kept - 2 ^ 52) := by omega
    refine ⟨_, ofFloat?_ofBits negative bits (by omega) (by omega) (by omega), rfl, ?_, ?_⟩
    · dsimp only
      rw [Nat.add_sub_of_le low]
    · change ((2 ^ 52 + (kept - 2 ^ 52) : Nat) : ℚ) * 2 ^ (((place + 1 : Nat) : Int) - 1075) = _
      rw [Nat.add_sub_of_le low,
        show ((place + 1 : Nat) : Int) - 1075 = (place : Int) - 1074 by omega]

theorem IsNearest.of_eq {x : Float} {q : ℚ} (finite : x.isFinite = true) (same : value x = q) :
    IsNearest x q where
  finite := finite
  least y _ := by
    rw [same, sub_self, abs_zero]
    exact abs_nonneg _
  even y _ near apart := by
    rw [same, sub_self, abs_zero, abs_eq_zero, sub_eq_zero] at near
    exact absurd (near.trans same.symm) apart

theorem value_round_zero : value (Binary.round ⟨false, 0, 0⟩) = 0 := by
  have fraction : Binary.ofFloat? (Binary.round ⟨false, 0, 0⟩) = some ⟨false, 0, -1074⟩ := by decide
  rw [value_of_ofFloat? fraction]
  simp [Binary.value, Binary.magnitude]

theorem cast_eq_sign_natAbs (n : Int) :
    (n : ℚ) = if decide (n < 0) = true then -(n.natAbs : ℚ) else n.natAbs := by
  have whole : n = if decide (n < 0) = true then -(n.natAbs : Int) else n.natAbs := by
    simp only [decide_eq_true_eq]
    split <;> omega
  nth_rewrite 1 [whole]
  split <;> simp

theorem value_ofInt {n : Int} (short : n.natAbs ≤ 2 ^ 52) :
    (ofInt n).isFinite = true ∧ value (ofInt n) = n := by
  rcases Nat.eq_zero_or_pos n.natAbs with zero | pos
  · obtain rfl := Int.natAbs_eq_zero.mp zero
    exact ⟨by decide, value_round_zero.trans (by simp)⟩
  · obtain ⟨k, fraction⟩ := ofFloat?_round (decide (n < 0)) pos short
    refine ⟨isFinite_of_ofFloat? fraction, ?_⟩
    have magnitude : Binary.magnitude ⟨decide (n < 0), n.natAbs * 2 ^ k, -k⟩ = n.natAbs := by
      unfold Binary.magnitude
      rw [zpow_neg, zpow_natCast, Nat.cast_mul, Nat.cast_pow, Nat.cast_ofNat,
        mul_inv_cancel_right₀ (by positivity)]
    rw [ofInt, value_of_ofFloat? fraction, cast_eq_sign_natAbs n]
    unfold Binary.value
    rw [magnitude]

theorem ofFloat?_ofInt {n : Int} {k : Nat} (length : n.natAbs.log2 = 52 + k) (short : k ≤ 64) :
    ∃ s : Int, |(s : ℚ)| = 1 ∧ (n : ℚ) = s * n.natAbs ∧
      ∃ d, Binary.ofFloat? (ofInt n) = some d ∧
        d.mantissa % 2 = Binary.halveEven n.natAbs k % 2 ∧
        d.value = (s * Binary.halveEven n.natAbs k : Int) * 2 ^ k := by
  obtain ⟨bits, low, high⟩ := Binary.magnitudeBits_long length short
  obtain ⟨d, fraction, sign, parity, magnitude⟩ :=
    ofFloat?_carried (decide (n < 0)) low high (by omega : k + 1074 < 2045)
  rw [← bits] at fraction
  rw [show ((k + 1074 : Nat) : Int) - 1074 = k by omega, zpow_natCast] at magnitude
  have value : d.value = if decide (n < 0) = true then -(Binary.halveEven n.natAbs k * 2 ^ k : ℚ)
      else Binary.halveEven n.natAbs k * 2 ^ k := by rw [Binary.value, sign, magnitude]
  rw [cast_eq_sign_natAbs n]
  split at value
  · next negative =>
      rw [if_pos negative]
      exact ⟨-1, by simp, by simp, d, fraction, parity, by rw [value]; simp⟩
  · next positive =>
      rw [if_neg positive]
      exact ⟨1, by simp, by simp, d, fraction, parity, by rw [value]; simp⟩

/-- A whole number of a word is converted to the double that is nearest to it. -/
theorem isNearest_ofInt {n : Int} (least : -2 ^ 63 ≤ n) (most : n < 2 ^ 63) :
    IsNearest (ofInt n) n := by
  by_cases short : n.natAbs ≤ 2 ^ 52
  · obtain ⟨finite, same⟩ := value_ofInt short
    exact .of_eq finite same
  have nonzero : n.natAbs ≠ 0 := by omega
  have low : 52 ≤ n.natAbs.log2 := (Nat.le_log2 nonzero).mpr (by omega)
  have high : n.natAbs.log2 < 64 := (Nat.log2_lt nonzero).mpr (by omega)
  obtain ⟨k, length⟩ := Nat.exists_eq_add_of_le low
  obtain ⟨s, unit, own, d, fraction, parity, shown⟩ := ofFloat?_ofInt length (by omega)
  obtain ⟨near, tie⟩ := Binary.halveEven_near n.natAbs k
  generalize Binary.halveEven n.natAbs k = kept at *
  have error : |((s * kept : Int) : ℚ) * 2 ^ k - n| = |((kept * 2 ^ k : Nat) : ℚ) - n.natAbs| := by
    rw [own, show ((s * kept : Int) : ℚ) * 2 ^ k - s * n.natAbs =
      s * (((kept * 2 ^ k : Nat) : ℚ) - n.natAbs) by push_cast; ring, abs_mul, unit, one_mul]
  have close : 2 * |((s * kept : Int) : ℚ) * 2 ^ k - n| ≤ 2 ^ k := by
    rw [error]
    exact_mod_cast near
  have large : (2 : ℚ) ^ 52 * 2 ^ k ≤ |(n : ℚ)| := by
    have size := Nat.log2_self_le nonzero
    rw [length, Nat.pow_add] at size
    rw [← Int.cast_abs, Int.abs_eq_natAbs]
    exact_mod_cast size
  have best (y : Float) (finite : y.isFinite = true) :
      |value (ofInt n) - n| ≤ |value y - n| ∧ (|value y - n| = |value (ofInt n) - n| →
        value y ≠ value (ofInt n) → 2 * |value (ofInt n) - n| = 2 ^ k) := by
    obtain ⟨e, read⟩ := exists_ofFloat? finite
    rw [value_of_ofFloat? fraction, shown, value_of_ofFloat? read]
    refine nearest_multiple (by positivity) close large fun big => ?_
    rw [Binary.abs_value] at big
    exact Binary.exists_multiple (mantissa_lt read) big
  refine ⟨isFinite_of_ofFloat? fraction, fun y finite => (best y finite).1, ?_⟩
  intro y finite same apart
  have half := (best y finite).2 same apart
  rw [value_of_ofFloat? fraction, shown, error] at half
  rw [toBits_mod_two fraction, parity]
  exact tie (by exact_mod_cast half)

end Double

/-! ## Doubles as whole numbers -/

/-- The nearest whole number; a half goes away from zero. -/
def awayFromZero (q : ℚ) : Int := if q < 0 then -⌊-q + 1 / 2⌋ else ⌊q + 1 / 2⌋

namespace Binary

theorem awayFromZero_value (d : Binary) :
    awayFromZero d.value =
      if d.negative then -(⌊d.magnitude + 1 / 2⌋₊ : Int) else ⌊d.magnitude + 1 / 2⌋₊ := by
  have nonneg := d.magnitude_nonneg
  rw [Int.natCast_floor_eq_floor (by positivity)]
  unfold awayFromZero value
  cases d.negative with
  | false => simp only [Bool.false_eq_true, if_false, if_neg (not_lt.mpr nonneg)]
  | true =>
      simp only [if_true, neg_neg]
      rcases nonneg.eq_or_lt with zero | pos
      · rw [← zero]
        norm_num
      · rw [if_pos (neg_lt_zero.mpr pos)]

theorem floor_magnitude_add_half (d : Binary) :
    ⌊d.magnitude + 1 / 2⌋₊ = if d.reachesHalf then d.wholePart + 1 else d.wholePart := by
  obtain ⟨negative, m, exponent⟩ := d
  cases exponent with
  | ofNat e =>
      have same : magnitude ⟨negative, m, .ofNat e⟩ = (m * twoTo e : Nat) := by
        rw [magnitude, Int.ofNat_eq_natCast, zpow_natCast, Nat.cast_mul, cast_twoTo]
      have part : ⌊(1 : ℚ) / 2⌋₊ = 0 := by norm_num
      rw [same, add_comm, Nat.floor_add_natCast (by norm_num), part, Nat.zero_add]
      rfl
  | negSucc e =>
      obtain ⟨unit, own⟩ : ∃ unit, unit = twoTo (e + 1) := ⟨_, rfl⟩
      have pos : 0 < unit := own ▸ Nat.two_pow_pos _
      have same : magnitude ⟨negative, m, .negSucc e⟩ + 1 / 2 = (2 * m + unit : Nat) / (2 * unit : Nat) := by
        have nonzero : (unit : ℚ) ≠ 0 := by exact_mod_cast pos.ne'
        rw [magnitude, zpow_negSucc, ← cast_twoTo, ← own]
        push_cast
        field_simp
      have half : reachesHalf ⟨negative, m, .negSucc e⟩ = decide (unit ≤ 2 * (m % unit)) := by
        rw [own]
        rfl
      have whole : wholePart ⟨negative, m, .negSucc e⟩ = m / unit := by
        rw [own]
        rfl
      have short := Nat.mod_lt m pos
      have parts : 2 * m + unit = m / unit * (2 * unit) + (2 * (m % unit) + unit) := by
        nth_rewrite 1 [← Nat.div_add_mod m unit]
        ring
      rw [same, Nat.floor_div_eq_div, half, whole, parts]
      simp only [decide_eq_true_eq]
      split <;> refine Nat.div_eq_of_lt_le ?_ ?_ <;> simp only [Nat.succ_mul] <;> omega

theorem reachesHalf_of_isWhole {d : Binary} (whole : d.isWhole = true) : d.reachesHalf = false := by
  unfold reachesHalf
  split
  · rfl
  · next small =>
      have none : d.mantissa % twoTo (-d.exponent).toNat = 0 := by simpa [isWhole, small] using whole
      have pos : 0 < twoTo (-d.exponent).toNat := Nat.two_pow_pos _
      rw [none]
      exact decide_eq_false (by omega)

end Binary

namespace Double

theorem ofFloat?_round_zero (negative : Bool) :
    Binary.ofFloat? (Binary.round ⟨negative, 0, 0⟩) = some ⟨negative, 0, -1074⟩ := by
  cases negative <;> decide

theorem truncate_round {x : Float} {d : Binary} (fraction : Binary.ofFloat? x = some d) :
    ∃ e, Binary.ofFloat? (Rounding.round x) = some e ∧ e.truncate = awayFromZero d.value := by
  rw [Binary.awayFromZero_value, Binary.floor_magnitude_add_half]
  unfold Rounding.round Rounding.wholeWith
  simp only [fraction]
  cases whole : d.isWhole with
  | true =>
      refine ⟨d, fraction, ?_⟩
      simp only [Binary.reachesHalf_of_isWhole whole, Bool.false_eq_true, if_false]
      rfl
  | false =>
      have short := wholePart_lt fraction whole
      obtain ⟨n, own⟩ : ∃ n, n = if d.reachesHalf then d.wholePart + 1 else d.wholePart := ⟨_, rfl⟩
      simp only [Bool.false_eq_true, if_false, ← own]
      rcases Nat.eq_zero_or_pos n with rfl | pos
      · refine ⟨_, ofFloat?_round_zero d.negative, ?_⟩
        unfold Binary.truncate
        rw [show Binary.wholePart ⟨d.negative, 0, -1074⟩ = 0 from Nat.zero_div _]
      · have room : n ≤ 2 ^ 52 := by
          rw [own]
          split <;> omega
        obtain ⟨k, rounded⟩ := ofFloat?_round d.negative pos room
        refine ⟨_, rounded, ?_⟩
        unfold Binary.truncate
        rw [Binary.wholePart_shifted]

theorem saturate_round {x : Float} (finite : x.isFinite = true) (low high : Int) :
    Rounding.saturate low high (Rounding.round x) =
      Rounding.confine low high (awayFromZero (value x)) := by
  obtain ⟨d, fraction⟩ := exists_ofFloat? finite
  obtain ⟨e, rounded, whole⟩ := truncate_round fraction
  unfold Rounding.saturate
  simp only [rounded, whole, value_of_ofFloat? fraction]

end Double

end Grimoire
