import Grimoire.Proofs.Number.Exact
import Grimoire.Proofs.Number.Neutral
import Grimoire.World.Health

/-! # Maxima that change for a time

A change of a maximum is kept as it was really applied, so that it can be undone.  But a maximum is never
below zero, and what an undoing would take from it beyond that is not taken: that is the shortfall of a
turn.  While changes come and lapse, the maximum is what it was, and what is outstanding, and all the
shortfalls; when nothing is outstanding any more, only the shortfalls are left over.

Where all changes go the same way there are none.
-/

namespace Grimoire

open Quantity (positivePart)

variable {α : Type} [Quantity α]

theorem Exact.value_sum [Quantity.Neutral α] {value : α → ℚ} (reading : Exact value) (xs : List α) :
    value (Quantity.sum xs) = (xs.map value).sum := by
  have nothing : value (-0) = 0 := by
    have same := congrArg value (Quantity.Neutral.add_neg_zero (0 : α))
    rw [reading.add, reading.zero, zero_add] at same
    exact same
  have from_ (start : α) : value (xs.foldl (· + ·) start) = value start + (xs.map value).sum := by
    induction xs generalizing start with
    | nil => simp
    | cons x xs ih =>
        rw [List.foldl_cons, ih, reading.add, List.map_cons, List.sum_cons, add_assoc]
  rw [Quantity.sum, from_, nothing, zero_add]

namespace Health

/-- What happens to a maximum: it is changed until a tick, or a tick is reached. -/
inductive Turn (α : Type) where
  | adjust (amount : α) (expiresAt : Nat)
  | expire (tick : Nat)

def turn (h : Health α) : Turn α → Health α
  | .adjust amount expiresAt => h.adjustMax amount (some expiresAt)
  | .expire tick => (h.expire tick).1

def turns (h : Health α) (ts : List (Turn α)) : Health α := ts.foldl turn h

def total (value : α → ℚ) (bs : List (Boost α)) : ℚ := (bs.map fun b => value b.applied).sum

def undone (h : Health α) (value : α → ℚ) (tick : Nat) : ℚ :=
  total value (h.boosts.filter fun b => b.expiresAt ≤ tick)

/-- What a turn does not take from a maximum because nothing is left of it. -/
def shortfall (h : Health α) (value : α → ℚ) : Turn α → ℚ
  | .adjust .. => 0
  | .expire tick => (h.undone value tick - value h.max) ⊔ 0

def shortfalls (h : Health α) (value : α → ℚ) : List (Turn α) → ℚ
  | [] => 0
  | t :: ts => h.shortfall value t + (h.turn t).shortfalls value ts

/-! ## Totals -/

section

variable (value : α → ℚ)

omit [Quantity α] in
theorem total_append (bs bs' : List (Boost α)) :
    total value (bs ++ bs') = total value bs + total value bs' := by
  simp [total]

omit [Quantity α] in
theorem total_filter (p : Boost α → Bool) (bs : List (Boost α)) :
    total value (bs.filter p) + total value (bs.filter fun b => !p b) = total value bs := by
  rw [← total_append]
  exact ((List.filter_append_perm p bs).map _).sum_eq

end

/-! ## Turns -/

variable {value : α → ℚ} (reading : Exact value)
include reading

theorem value_max_adjustMax (h : Health α) (amount : α) (expiresAt : Option Nat) :
    value (h.adjustMax amount expiresAt).max = (value h.max + value amount) ⊔ 0 := by
  have max_eq : (h.adjustMax amount expiresAt).max = positivePart (h.max + amount) := by
    cases expiresAt <;> rfl
  rw [max_eq, reading.value_positivePart, reading.add]

variable [Quantity.Neutral α]

theorem value_max_expire {h : Health α} (nonneg : 0 ≤ value h.max) (tick : Nat) :
    value (h.expire tick).1.max = (value h.max - h.undone value tick) ⊔ 0 := by
  unfold expire
  dsimp only
  by_cases none : (h.boosts.filter fun b => b.expiresAt ≤ tick).isEmpty = true
  · have nothing : h.undone value tick = 0 := by
      rw [undone, List.isEmpty_iff.mp none]
      rfl
    rw [if_pos none, nothing, sub_zero, max_eq_left nonneg]
  · rw [if_neg none]
    change value (positivePart (h.max - Quantity.sum _)) = _
    rw [reading.value_positivePart, reading.sub, reading.value_sum, List.map_map]
    rfl

omit reading [Quantity.Neutral α] in
theorem boosts_expire (h : Health α) (tick : Nat) :
    (h.expire tick).1.boosts = h.boosts.filter fun b => !decide (b.expiresAt ≤ tick) := by
  unfold expire
  dsimp only
  by_cases none : (h.boosts.filter fun b => b.expiresAt ≤ tick).isEmpty = true
  · rw [if_pos none]
    refine (List.filter_eq_self.mpr fun b listed => ?_).symm
    have stays := List.filter_eq_nil_iff.mp (List.isEmpty_iff.mp none) b listed
    simpa using stays
  · rw [if_neg none]

theorem nonneg_turn {h : Health α} (nonneg : 0 ≤ value h.max) (t : Turn α) :
    0 ≤ value (h.turn t).max := by
  cases t with
  | adjust amount expiresAt =>
      rw [turn, value_max_adjustMax reading]
      exact le_max_right _ _
  | expire tick =>
      rw [turn, value_max_expire reading nonneg]
      exact le_max_right _ _

theorem value_max_turn {h : Health α} (nonneg : 0 ≤ value h.max) (t : Turn α) :
    value (h.turn t).max - total value (h.turn t).boosts =
      value h.max - total value h.boosts + h.shortfall value t := by
  cases t with
  | adjust amount expiresAt =>
      have kept : total value (h.turn (.adjust amount expiresAt)).boosts =
          total value h.boosts + (value (h.turn (.adjust amount expiresAt)).max - value h.max) := by
        change total value (h.boosts ++ [_]) = _
        rw [total_append]
        exact congrArg (total value h.boosts + ·) (by simp [total, reading.sub, turn, adjustMax, withMax])
      rw [kept, shortfall]
      ring
  | expire tick =>
      have parts := total_filter value (fun b => decide (b.expiresAt ≤ tick)) h.boosts
      rw [turn, boosts_expire, value_max_expire reading nonneg, shortfall, ← parts]
      change _ = _ - (h.undone value tick + _) + _
      rcases le_total (h.undone value tick) (value h.max) with enough | short
      · rw [max_eq_left (sub_nonneg.mpr enough), max_eq_right (sub_nonpos.mpr enough)]
        ring
      · rw [max_eq_right (sub_nonpos.mpr short), max_eq_left (sub_nonneg.mpr short)]
        ring

theorem value_max_turns {h : Health α} (nonneg : 0 ≤ value h.max) (ts : List (Turn α)) :
    value (h.turns ts).max - total value (h.turns ts).boosts =
      value h.max - total value h.boosts + h.shortfalls value ts := by
  induction ts generalizing h with
  | nil => exact (add_zero _).symm
  | cons t ts ih =>
      have rest := ih (nonneg_turn reading nonneg t)
      rw [value_max_turn reading nonneg t] at rest
      exact rest.trans (add_assoc ..)

/-! ## Shortfalls -/

omit reading [Quantity.Neutral α] [Quantity α] in
theorem shortfall_nonneg (h : Health α) (t : Turn α) : 0 ≤ h.shortfall value t := by
  cases t with
  | adjust => exact le_rfl
  | expire => exact le_max_right _ _

omit reading [Quantity.Neutral α] in
theorem shortfalls_nonneg (h : Health α) (ts : List (Turn α)) : 0 ≤ h.shortfalls value ts := by
  induction ts generalizing h with
  | nil => exact le_rfl
  | cons t ts ih => exact add_nonneg (h.shortfall_nonneg t) (ih _)

omit reading [Quantity.Neutral α] in
/-- Nothing is short exactly if every undoing finds enough to undo it from. -/
theorem shortfalls_eq_zero_iff (h : Health α) (ts : List (Turn α)) :
    h.shortfalls value ts = 0 ↔ ∀ earlier tick later, ts = earlier ++ .expire tick :: later →
      (h.turns earlier).undone value tick ≤ value (h.turns earlier).max := by
  induction ts generalizing h with
  | nil => simp [shortfalls]
  | cons t ts ih =>
      rw [shortfalls, add_eq_zero_iff_of_nonneg (h.shortfall_nonneg t) (shortfalls_nonneg _ ts), ih]
      constructor
      · rintro ⟨first, rest⟩ earlier tick later split
        cases earlier with
        | nil =>
            cases split
            rwa [shortfall, max_eq_right_iff, sub_nonpos] at first
        | cons t' earlier =>
            cases split
            exact rest earlier tick later rfl
      · intro enough
        refine ⟨?_, fun earlier tick later split => ?_⟩
        · cases t with
          | adjust => rfl
          | expire tick =>
              rw [shortfall, max_eq_right_iff, sub_nonpos]
              exact enough [] tick ts rfl
        · exact enough (t :: earlier) tick later (congrArg (t :: ·) split)

/-! ## One way -/

omit reading [Quantity.Neutral α] in
/-- Nothing is short where something holds that turns keep and that leaves enough to undo. -/
theorem shortfalls_eq_zero {P : Health α → Prop} {ts : List (Turn α)}
    (kept : ∀ h, P h → ∀ t ∈ ts, P (h.turn t))
    (enough : ∀ h, P h → ∀ tick, h.undone value tick ≤ value h.max) {h : Health α} (start : P h) :
    h.shortfalls value ts = 0 := by
  induction ts generalizing h with
  | nil => rfl
  | cons t ts ih =>
      have next := kept h start t List.mem_cons_self
      have rest := ih (fun h holds t listed => kept h holds t (List.mem_cons_of_mem _ listed)) next
      rw [shortfalls, rest, add_zero]
      cases t with
      | adjust => rfl
      | expire tick => exact max_eq_right (sub_nonpos.mpr (enough h start tick))

/-- Whether all changes that are outstanding were upwards, and are all still part of the maximum. -/
structure Raised (value : α → ℚ) (h : Health α) : Prop where
  up : ∀ b ∈ h.boosts, 0 ≤ value b.applied
  covered : total value h.boosts ≤ value h.max

/-- Whether all changes that are outstanding were downwards. -/
structure Lowered (value : α → ℚ) (h : Health α) : Prop where
  nonneg : 0 ≤ value h.max
  down : ∀ b ∈ h.boosts, value b.applied ≤ 0

omit [Quantity α] reading [Quantity.Neutral α] in
theorem total_nonneg {bs : List (Boost α)} (up : ∀ b ∈ bs, 0 ≤ value b.applied) :
    0 ≤ total value bs :=
  List.sum_nonneg (by simpa using up)

omit [Quantity α] reading [Quantity.Neutral α] in
theorem Raised.undone_le {h : Health α} (raised : h.Raised value) (tick : Nat) :
    h.undone value tick ≤ value h.max := by
  have parts := total_filter value (fun b => decide (b.expiresAt ≤ tick)) h.boosts
  have stays : 0 ≤ total value (h.boosts.filter fun b => !decide (b.expiresAt ≤ tick)) :=
    total_nonneg fun b listed => raised.up b (List.mem_filter.mp listed).1
  have covered := raised.covered
  rw [← parts] at covered
  exact (le_add_of_nonneg_right stays).trans covered

omit [Quantity α] reading [Quantity.Neutral α] in
theorem Lowered.undone_le {h : Health α} (lowered : h.Lowered value) (tick : Nat) :
    h.undone value tick ≤ value h.max := by
  have nothing : h.undone value tick ≤ 0 := by
    refine (List.sum_le_card_nsmul _ 0 fun x listed => ?_).trans_eq (nsmul_zero _)
    obtain ⟨b, lapsed, rfl⟩ := List.mem_map.mp listed
    exact lowered.down b (List.mem_filter.mp lapsed).1
  exact nothing.trans lowered.nonneg

omit [Quantity.Neutral α] in
theorem boosts_adjust (h : Health α) (amount : α) (expiresAt : Nat) :
    ∃ b, (h.turn (.adjust amount expiresAt)).boosts = h.boosts ++ [b] ∧
      value b.applied = (value h.max + value amount) ⊔ 0 - value h.max := by
  refine ⟨_, rfl, ?_⟩
  rw [reading.sub, reading.value_positivePart, reading.add]

theorem Raised.turn {h : Health α} (raised : h.Raised value) {t : Turn α}
    (up : ∀ amount expiresAt, t = .adjust amount expiresAt → 0 ≤ value amount) :
    (h.turn t).Raised value := by
  have nonneg : 0 ≤ value h.max := (total_nonneg raised.up).trans raised.covered
  have account := value_max_turn reading nonneg t
  cases t with
  | adjust amount expiresAt =>
      have more := up amount expiresAt rfl
      obtain ⟨b, kept, applied⟩ := boosts_adjust reading h amount expiresAt
      refine ⟨?_, ?_⟩
      · rw [kept]
        refine List.forall_mem_append.mpr ⟨raised.up, List.forall_mem_singleton.mpr ?_⟩
        rw [applied, max_eq_left (add_nonneg nonneg more), add_sub_cancel_left]
        exact more
      · rw [shortfall, add_zero] at account
        exact sub_nonneg.mp (account ▸ sub_nonneg.mpr raised.covered)
  | expire tick =>
      refine ⟨?_, ?_⟩
      · change ∀ b ∈ (h.expire tick).1.boosts, _
        rw [boosts_expire]
        exact fun b listed => raised.up b (List.mem_filter.mp listed).1
      · have enough := max_eq_right (sub_nonpos.mpr (raised.undone_le tick))
        rw [shortfall, enough, add_zero] at account
        exact sub_nonneg.mp (account ▸ sub_nonneg.mpr raised.covered)

theorem Lowered.turn {h : Health α} (lowered : h.Lowered value) {t : Turn α}
    (down : ∀ amount expiresAt, t = .adjust amount expiresAt → value amount ≤ 0) :
    (h.turn t).Lowered value := by
  refine ⟨nonneg_turn reading lowered.nonneg t, ?_⟩
  cases t with
  | adjust amount expiresAt =>
      have less := down amount expiresAt rfl
      obtain ⟨b, kept, applied⟩ := boosts_adjust reading h amount expiresAt
      rw [kept]
      refine List.forall_mem_append.mpr ⟨lowered.down, List.forall_mem_singleton.mpr ?_⟩
      rw [applied, sub_nonpos]
      exact max_le (add_le_of_nonpos_right less) lowered.nonneg
  | expire tick =>
      change ∀ b ∈ (h.expire tick).1.boosts, _
      rw [boosts_expire]
      exact fun b listed => lowered.down b (List.mem_filter.mp listed).1

end Health

end Grimoire
