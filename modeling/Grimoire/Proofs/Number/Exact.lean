import Mathlib
import Grimoire.Number.Scalar

/-! # Exact numbers

Numbers are exact if they can be read as rationals of which sums, differences and comparisons are the
ones that the library computes.  Under an exact reading ceilings say what they seem to say: what is
still to be had under one is the ceiling less what was asked for.
-/

namespace Grimoire

open Quantity (positivePart)

variable {α : Type} [Quantity α]

/-- A reading of numbers as rationals in which nothing is rounded. -/
structure Exact (value : α → ℚ) : Prop where
  zero : value 0 = 0
  add : ∀ x y, value (x + y) = value x + value y
  sub : ∀ x y, value (x - y) = value x - value y
  lt : ∀ x y, x < y ↔ value x < value y
  isNaN : ∀ x : α, Quantity.isNaN x = false

namespace Exact

variable {value : α → ℚ} (reading : Exact value)

include reading

theorem value_min (x y : α) : value (Quantity.min x y) = min (value x) (value y) := by
  unfold Quantity.min
  rw [reading.isNaN, Bool.or_false]
  by_cases less : x < y
  · rw [if_pos (decide_eq_true less), min_eq_left (le_of_lt ((reading.lt x y).mp less))]
  · rw [if_neg (by simpa using less), min_eq_right (not_lt.mp (mt (reading.lt x y).mpr less))]

theorem value_positivePart (x : α) : value (positivePart x) = max (value x) 0 := by
  have above := reading.lt 0 x
  rw [reading.zero] at above
  unfold positivePart
  by_cases positive : 0 < x
  · rw [if_pos positive, max_eq_left (le_of_lt (above.mp positive))]
  · rw [if_neg positive, reading.zero, max_eq_right (not_lt.mp (mt above.mpr positive))]

theorem value_nonneg {x : α} (h : ¬ x < 0) : 0 ≤ value x := by
  rw [← reading.zero]
  exact not_lt.mp (mt (reading.lt x 0).mpr h)

end Exact

/-- Rationals as numbers of the library.  What leads out of the rationals, roots and angles, is zero. -/
@[reducible] def rational : Scalar ℚ where
  decLt := inferInstance
  decLe := inferInstance
  isNaN _ := false
  isFinite _ := true
  abs x := if x < 0 then -x else x
  sqrt _ := 0
  floor x := x.floor
  ceil x := x.ceil
  round x := if x < 0 then (x - 1 / 2).ceil else (x + 1 / 2).floor
  remainder x y := x - y * (if x / y < 0 then (x / y).ceil else (x / y).floor)
  hypotenuse _ _ := 0
  sin _ := 0
  cos _ := 0
  arcCos _ := 0
  toRadians _ := 0
  toDegrees _ := 0
  isWhole x := x.den == 1
  saturate low high x := max low (min high (if x < 0 then x.ceil else x.floor))
  ofInt n := n
  text := toString

theorem exact_rational : @Exact ℚ rational.toQuantity id :=
  @Exact.mk ℚ rational.toQuantity id rfl (fun _ _ => rfl) (fun _ _ => rfl) (fun _ _ => .rfl)
    fun _ => rfl

/-! ## Ceilings -/

namespace Ceiling

/-- What is left of a ceiling does not depend on whether it was kept to. -/
theorem left_of_min (most asked : ℚ) :
    max (most - min asked (max most 0)) 0 = max (most - asked) 0 := by
  rcases le_total asked (max most 0) with kept | beyond
  · rw [min_eq_left kept]
  · have nothing : most - asked ≤ 0 := sub_nonpos.mpr ((le_max_left most 0).trans beyond)
    have spent : most - max most 0 ≤ 0 := sub_nonpos.mpr (le_max_left most 0)
    rw [min_eq_right beyond, max_eq_right nothing, max_eq_right spent]

/-- Two consecutive grants add up to the grant of the sum. -/
theorem min_add_left {asked next : ℚ} (most : ℚ) (nonneg : 0 ≤ asked) (more : 0 ≤ next) :
    min asked (max most 0) + min next (max (most - asked) 0) = min (asked + next) (max most 0) := by
  rcases le_total asked (max most 0) with kept | beyond
  · have left : max (most - asked) 0 = max most 0 - asked := by
      rcases le_total 0 most with positive | negative
      · rw [max_eq_left positive] at kept ⊢
        rw [max_eq_left (sub_nonneg.mpr kept)]
      · rw [max_eq_right negative] at kept ⊢
        have zero : asked = 0 := le_antisymm kept nonneg
        rw [zero, sub_zero, sub_zero, max_eq_right negative]
    rw [min_eq_left kept, left, ← min_add_add_left, add_sub_cancel]
  · have nothing : most - asked ≤ 0 := sub_nonpos.mpr ((le_max_left most 0).trans beyond)
    rw [min_eq_right beyond, max_eq_right nothing, min_eq_right more, add_zero,
      min_eq_right (beyond.trans (le_add_of_nonneg_right more))]

end Ceiling

end Grimoire
