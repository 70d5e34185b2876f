import Grimoire.Random.Stream
import Mathlib.Order.Lattice
import Mathlib.Tactic.Linarith

/-! # Draws from an interval

A draw from an interval is specified in words, where sums and products wrap around: the length of the
interval is a word, zero for the interval of all words, and a word that is drawn is accepted when the
lower half of its product with the length is not above a bound.  The upper half is then added to the
lower end.  `Draws` goes on for as long as words are refused, so it may have no answer.

That nothing wraps around in the end is what is proved here: answers lie in the interval, and
`Stream.between`, which counts without wrapping and gives up after `Stream.patience` words, has the same
ones.
-/

namespace Grimoire.Stream

/-! ## In words -/

/-- How many numbers there are from one to another, in a word. -/
def span (low high : Int64) : UInt64 := (high - low + 1).toUInt64

def leadingZeros (word : UInt64) : Nat := 63 - Nat.log2 word.toNat

/-- The largest lower half of a product with `size` for which a word is accepted. -/
def zone (size : UInt64) : UInt64 := (size <<< (leadingZeros size).toUInt64) - 1

def upperHalf (word size : UInt64) : UInt64 := (word.toNat * size.toNat / twoTo 64).toUInt64

/-- What a stream answers when it is asked for a number below `size`. -/
inductive DrawsBelow (size : UInt64) : Stream → UInt64 → Stream → Prop where
  | accept {s} (inside : s.next.1 * size ≤ zone size) :
      DrawsBelow size s (upperHalf s.next.1 size) s.next.2
  | refuse {s offset s'} (beyond : ¬ s.next.1 * size ≤ zone size)
      (later : DrawsBelow size s.next.2 offset s') : DrawsBelow size s offset s'

/-- What a stream answers when it is asked for a number from `low` to `high`. -/
inductive DrawsOrdered (low high : Int64) (s : Stream) : Int64 → Stream → Prop where
  | any (all : span low high = 0) : DrawsOrdered low high s s.next.1.toInt64 s.next.2
  | shifted {offset s'} (some : span low high ≠ 0)
      (drawn : DrawsBelow (span low high) s offset s') :
      DrawsOrdered low high s (low + offset.toInt64) s'

/-- What a stream answers when it is asked for a number between two others. -/
def Draws (a b : Int64) : Stream → Int64 → Stream → Prop :=
  if a ≤ b then DrawsOrdered a b else DrawsOrdered b a

/-! ## Words as numbers -/

variable {a b low high v : Int64} {s s' : Stream} {offset size : UInt64}

theorem toInt_eq_toNat_or (x : Int64) :
    0 ≤ x.toInt ∧ x.toInt = x.toUInt64.toNat ∨
      x.toInt < 0 ∧ x.toInt = x.toUInt64.toNat - 2 ^ 64 := by
  have read : x.toInt = _ := BitVec.toInt_eq_toNat_cond x.toBitVec
  rw [Int64.toNat_toBitVec] at read
  have range := x.toUInt64.toNat_lt
  rw [read]
  split <;> omega

theorem toNat_ne_zero (some : size ≠ 0) : size.toNat ≠ 0 :=
  fun zero => some (UInt64.toNat_inj.mp zero)

theorem toNat_span (order : low.toInt ≤ high.toInt) :
    (span low high).toNat = (high.toInt - low.toInt + 1).toNat % 2 ^ 64 := by
  have one : (1 : Int64).toUInt64.toNat = 1 := by decide
  have least := toInt_eq_toNat_or low
  have most := toInt_eq_toNat_or high
  have above := low.le_toInt
  have below := high.toInt_lt
  unfold span
  rw [Int64.toUInt64_add, Int64.toUInt64_sub, UInt64.toNat_add, UInt64.toNat_sub]
  omega

theorem toNat_span_of_ne_zero (order : low.toInt ≤ high.toInt) (some : span low high ≠ 0) :
    ((span low high).toNat : Int) = high.toInt - low.toInt + 1 := by
  have length := toNat_span order
  have pos := toNat_ne_zero some
  have above := low.le_toInt
  have below := high.toInt_lt
  omega

theorem all_of_span_eq_zero (order : low.toInt ≤ high.toInt) (all : span low high = 0) :
    low.toInt = -2 ^ 63 ∧ high.toInt = 2 ^ 63 - 1 := by
  have length := toNat_span order
  rw [all, UInt64.toNat_zero] at length
  have above := low.le_toInt
  have below := high.toInt_lt
  omega

theorem toInt_add_offset (inside : offset.toNat ≤ high.toInt - low.toInt) :
    (low + offset.toInt64).toInt = low.toInt + offset.toNat := by
  have least := toInt_eq_toNat_or low
  have sum := toInt_eq_toNat_or (low + offset.toInt64)
  rw [Int64.toUInt64_add, UInt64.toNat_add, UInt64.toUInt64_toInt64] at sum
  have above := low.le_toInt
  have below := high.toInt_lt
  have range := (low + offset.toInt64).le_toInt
  have range' := (low + offset.toInt64).toInt_lt
  omega

theorem signed_eq_toInt (word : UInt64) : signed word = word.toInt64.toInt := by
  have read := toInt_eq_toNat_or word.toInt64
  rw [UInt64.toUInt64_toInt64] at read
  have range := word.toNat_lt
  have least := word.toInt64.le_toInt
  have most := word.toInt64.toInt_lt
  change (if word.toNat < 2 ^ 63 then (word.toNat : Int) else word.toNat - (2 ^ 64 : Nat)) = _
  split <;> omega

theorem toNat_upperHalf (word size : UInt64) :
    (upperHalf word size).toNat = word.toNat * size.toNat / twoTo 64 := by
  have product : word.toNat * size.toNat < 2 ^ 64 * twoTo 64 :=
    Nat.mul_lt_mul'' word.toNat_lt size.toNat_lt
  unfold upperHalf
  rw [UInt64.toNat_ofNat']
  exact Nat.mod_eq_of_lt ((Nat.div_lt_iff_lt_mul (Nat.two_pow_pos 64)).mpr product)

theorem quotient_lt {word size : Nat} (short : word < 2 ^ 64) (pos : 0 < size) :
    word * size / twoTo 64 < size := by
  rw [Nat.div_lt_iff_lt_mul (Nat.two_pow_pos 64), Nat.mul_comm]
  exact Nat.mul_lt_mul_of_pos_left short pos

theorem toNat_zone (some : size ≠ 0) :
    (zone size).toNat = size.toNat * twoTo (63 - Nat.log2 size.toNat) - 1 := by
  have pos := toNat_ne_zero some
  have length : size.toNat.log2 < 64 := (Nat.log2_lt pos).mpr size.toNat_lt
  obtain ⟨zeros, sum⟩ := Nat.exists_eq_add_of_le (Nat.le_of_lt_succ length)
  have places : leadingZeros size = zeros := by
    unfold leadingZeros
    omega
  have fits : size.toNat * 2 ^ zeros < 2 ^ 64 := by
    have top := Nat.mul_lt_mul_of_pos_right (@Nat.lt_log2_self size.toNat) (Nat.two_pow_pos zeros)
    rwa [← Nat.pow_add, show size.toNat.log2 + 1 + zeros = 64 by omega] at top
  have shifted : (size <<< zeros.toUInt64).toNat = size.toNat * 2 ^ zeros := by
    have short : zeros.toUInt64.toNat % 64 = zeros := by
      rw [UInt64.toNat_ofNat']
      omega
    rw [UInt64.toNat_shiftLeft, short, Nat.shiftLeft_eq, Nat.mod_eq_of_lt fits]
  have least : 1 ≤ size <<< zeros.toUInt64 := by
    rw [UInt64.le_iff_toNat_le, shifted]
    exact Nat.mul_pos (Nat.pos_of_ne_zero pos) (Nat.two_pow_pos zeros)
  unfold zone
  rw [places, UInt64.toNat_sub_of_le _ _ least, shifted, show 63 - size.toNat.log2 = zeros by omega]
  rfl

/-! ## Answers -/

theorem DrawsBelow.lt (h : DrawsBelow size s offset s') (some : size ≠ 0) :
    offset.toNat < size.toNat := by
  induction h with
  | accept =>
      rw [toNat_upperHalf]
      exact quotient_lt (UInt64.toNat_lt _) (Nat.pos_of_ne_zero (toNat_ne_zero some))
  | refuse _ _ ih => exact ih

theorem DrawsBelow.drawn_lt (h : DrawsBelow size s offset s') : s.drawn < s'.drawn := by
  induction h with
  | accept => exact Nat.lt_succ_self _
  | refuse _ _ ih => exact Nat.lt_of_succ_lt ih

theorem le_zone_iff (word size : UInt64) :
    word.toNat * size.toNat % twoTo 64 ≤ (zone size).toNat ↔ word * size ≤ zone size := by
  rw [UInt64.le_iff_toNat_le, UInt64.toNat_mul]

theorem DrawsBelow.drawBelow_eq (h : DrawsBelow size s offset s') {more : Nat}
    (enough : s'.drawn ≤ s.drawn + more) :
    drawBelow size.toNat (zone size).toNat more s = (offset.toNat, s') := by
  induction h generalizing more with
  | accept inside =>
      cases more with
      | zero => exact absurd enough (Nat.not_succ_le_self _)
      | succ more =>
          unfold drawBelow
          simp only [le_zone_iff, if_pos inside, toNat_upperHalf]
  | refuse beyond later ih =>
      cases more with
      | zero =>
          have rise := later.drawn_lt
          exact absurd (Nat.lt_of_succ_lt rise) (Nat.not_lt.mpr enough)
      | succ more =>
          unfold drawBelow
          simp only [le_zone_iff, if_neg beyond]
          exact ih (Nat.le_trans enough (Nat.le_of_eq (Nat.succ_add_eq_add_succ ..).symm))

theorem drawBelow_draws (size : UInt64) (more : Nat) (s : Stream) :
    let answer := drawBelow size.toNat (zone size).toNat more s
    (∃ offset, DrawsBelow size s offset answer.2 ∧ answer.1 = offset.toNat) ∨
      answer.2.drawn = s.drawn + more := by
  induction more generalizing s with
  | zero => exact .inr rfl
  | succ more ih =>
      unfold drawBelow
      simp only [le_zone_iff]
      by_cases inside : s.next.1 * size ≤ zone size
      · rw [if_pos inside]
        exact .inl ⟨_, .accept inside, (toNat_upperHalf _ _).symm⟩
      · rw [if_neg inside]
        rcases ih s.next.2 with ⟨offset, later, same⟩ | exhausted
        · exact .inl ⟨offset, .refuse inside later, same⟩
        · exact .inr (exhausted.trans (Nat.succ_add_eq_add_succ ..))

theorem drawBelow_lt {size : Nat} (zone : Nat) (pos : 0 < size) (more : Nat) (s : Stream) :
    (drawBelow size zone more s).1 < size := by
  induction more generalizing s with
  | zero => exact pos
  | succ more ih =>
      unfold drawBelow
      dsimp only
      split
      · exact quotient_lt (UInt64.toNat_lt _) pos
      · exact ih _

theorem DrawsOrdered.mem (h : DrawsOrdered low high s v s') (order : low.toInt ≤ high.toInt) :
    low.toInt ≤ v.toInt ∧ v.toInt ≤ high.toInt := by
  cases h with
  | any all =>
      obtain ⟨least, most⟩ := all_of_span_eq_zero order all
      have above := s.next.1.toInt64.le_toInt
      have below := s.next.1.toInt64.toInt_lt
      omega
  | @shifted offset _ some drawn =>
      have length := toNat_span_of_ne_zero order some
      have short := drawn.lt some
      have inside : offset.toNat ≤ high.toInt - low.toInt := by omega
      rw [toInt_add_offset inside]
      omega

theorem DrawsOrdered.drawOrdered_eq (h : DrawsOrdered low high s v s') (order : low.toInt ≤ high.toInt)
    (enough : s'.drawn ≤ s.drawn + patience) :
    drawOrdered low.toInt high.toInt s = (v.toInt, s') := by
  have length : (high.toInt - low.toInt + 1).toNat % twoTo 64 = (span low high).toNat :=
    (toNat_span order).symm
  unfold drawOrdered
  cases h with
  | any all =>
      simp only [length, all, UInt64.toNat_zero, if_true, signed_eq_toInt]
  | @shifted offset _ some drawn =>
      have short := drawn.lt some
      have whole := toNat_span_of_ne_zero order some
      simp only [length, if_neg (toNat_ne_zero some), ← toNat_zone some, drawn.drawBelow_eq enough]
      have inside : offset.toNat ≤ high.toInt - low.toInt := by omega
      rw [toInt_add_offset inside]

theorem drawOrdered_draws (order : low.toInt ≤ high.toInt) (s : Stream) :
    let answer := drawOrdered low.toInt high.toInt s
    (∃ v, DrawsOrdered low high s v answer.2 ∧ answer.1 = v.toInt) ∨
      answer.2.drawn = s.drawn + patience := by
  have length : (high.toInt - low.toInt + 1).toNat % twoTo 64 = (span low high).toNat :=
    (toNat_span order).symm
  unfold drawOrdered
  by_cases all : span low high = 0
  · simp only [length, all, UInt64.toNat_zero, if_true]
    exact .inl ⟨_, .any all, signed_eq_toInt _⟩
  · simp only [length, if_neg (toNat_ne_zero all), ← toNat_zone all]
    rcases drawBelow_draws (span low high) patience s with ⟨offset, drawn, same⟩ | exhausted
    · refine .inl ⟨_, .shifted all drawn, ?_⟩
      have whole := toNat_span_of_ne_zero order all
      have short := drawn.lt all
      have inside : offset.toNat ≤ high.toInt - low.toInt := by omega
      rw [same, toInt_add_offset inside]
    · exact .inr exhausted

theorem drawOrdered_mem (order : low.toInt ≤ high.toInt) (s : Stream) :
    low.toInt ≤ (drawOrdered low.toInt high.toInt s).1 ∧
      (drawOrdered low.toInt high.toInt s).1 ≤ high.toInt := by
  have length : (high.toInt - low.toInt + 1).toNat % twoTo 64 = (span low high).toNat :=
    (toNat_span order).symm
  unfold drawOrdered
  by_cases all : span low high = 0
  · obtain ⟨least, most⟩ := all_of_span_eq_zero order all
    have above := s.next.1.toInt64.le_toInt
    have below := s.next.1.toInt64.toInt_lt
    simp only [length, all, UInt64.toNat_zero, if_true, signed_eq_toInt]
    omega
  · have whole := toNat_span_of_ne_zero order all
    simp only [length, if_neg (toNat_ne_zero all)]
    have short := drawBelow_lt ((span low high).toNat * twoTo (63 - (span low high).toNat.log2) - 1)
      (Nat.pos_of_ne_zero (toNat_ne_zero all)) patience s
    omega

theorem DrawsBelow.unique {other : UInt64} {s'' : Stream} (h : DrawsBelow size s offset s')
    (h' : DrawsBelow size s other s'') : offset = other ∧ s' = s'' := by
  induction h with
  | accept inside =>
      cases h' with
      | accept => exact ⟨rfl, rfl⟩
      | refuse beyond => exact absurd inside beyond
  | refuse beyond later ih =>
      cases h' with
      | accept inside => exact absurd inside beyond
      | refuse _ later' => exact ih later'

theorem DrawsOrdered.unique {w : Int64} {s'' : Stream} (h : DrawsOrdered low high s v s')
    (h' : DrawsOrdered low high s w s'') : v = w ∧ s' = s'' := by
  cases h with
  | any all =>
      cases h' with
      | any => exact ⟨rfl, rfl⟩
      | shifted some => exact absurd all some
  | shifted some drawn =>
      cases h' with
      | any all => exact absurd all some
      | shifted _ drawn' =>
          obtain ⟨rfl, rfl⟩ := drawn.unique drawn'
          exact ⟨rfl, rfl⟩

theorem Draws.unique {w : Int64} {s'' : Stream} (h : Draws a b s v s') (h' : Draws a b s w s'') :
    v = w ∧ s' = s'' := by
  unfold Draws at h h'
  split at h
  · next order =>
      rw [if_pos order] at h'
      exact h.unique h'
  · next wrong =>
      rw [if_neg wrong] at h'
      exact h.unique h'

theorem Draws.comm : Draws a b = Draws b a := by
  unfold Draws
  by_cases order : a ≤ b
  · by_cases turned : b ≤ a
    · rw [Int64.le_antisymm order turned]
    · rw [if_pos order, if_neg turned]
  · have turned : b ≤ a := (Int64.le_total a b).resolve_left order
    rw [if_neg order, if_pos turned]

theorem between_comm (x y : Int) : between x y = between y x := by
  funext s
  unfold between
  split <;> split
  · next order turned => rw [Int.le_antisymm order turned]
  · rfl
  · rfl
  · omega

theorem Draws.mem (h : Draws a b s v s') :
    min a.toInt b.toInt ≤ v.toInt ∧ v.toInt ≤ max a.toInt b.toInt := by
  unfold Draws at h
  split at h
  · next order =>
      rw [Int64.le_iff_toInt_le] at order
      rw [min_eq_left order, max_eq_right order]
      exact h.mem order
  · next wrong =>
      rw [Int64.le_iff_toInt_le] at wrong
      have order : b.toInt ≤ a.toInt := by omega
      rw [min_eq_right order, max_eq_left order]
      exact h.mem order

theorem Draws.between_eq (h : Draws a b s v s') (enough : s'.drawn ≤ s.drawn + patience) :
    between a.toInt b.toInt s = (v.toInt, s') := by
  unfold Draws at h
  unfold between
  simp only [← Int64.le_iff_toInt_le]
  split at h
  · next order =>
      rw [if_pos order]
      exact h.drawOrdered_eq (Int64.le_iff_toInt_le.mp order) enough
  · next wrong =>
      rw [if_neg wrong]
      rw [Int64.le_iff_toInt_le] at wrong
      exact h.drawOrdered_eq (by omega) enough

theorem between_draws (a b : Int64) (s : Stream) :
    let answer := between a.toInt b.toInt s
    (∃ v, Draws a b s v answer.2 ∧ answer.1 = v.toInt) ∨
      answer.2.drawn = s.drawn + patience := by
  unfold between Draws
  simp only [← Int64.le_iff_toInt_le]
  split
  · next order => exact drawOrdered_draws (Int64.le_iff_toInt_le.mp order) s
  · next wrong =>
      rw [Int64.le_iff_toInt_le] at wrong
      exact drawOrdered_draws (by omega) s

theorem between_mem (a b : Int64) (s : Stream) :
    min a.toInt b.toInt ≤ (between a.toInt b.toInt s).1 ∧
      (between a.toInt b.toInt s).1 ≤ max a.toInt b.toInt := by
  unfold between
  split
  · next order =>
      rw [min_eq_left order, max_eq_right order]
      exact drawOrdered_mem order s
  · next wrong =>
      have order : b.toInt ≤ a.toInt := by omega
      rw [min_eq_right order, max_eq_left order]
      exact drawOrdered_mem order s

end Grimoire.Stream
