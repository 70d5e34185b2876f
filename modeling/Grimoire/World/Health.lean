import Grimoire.Number.Scalar

/-! # Health

A pool with a maximum.  The maximum may be changed for a time: the change that was really applied is
kept as a boost and taken back when it lapses.  Lowering the maximum lowers the pool to it, and
raising it again does not fill the pool.
-/

namespace Grimoire

structure Boost (α : Type) where
  applied : α
  expiresAt : Nat
  deriving DecidableEq, Repr

/-- A pool, its maximum, and the changes of the maximum that have not lapsed yet. -/
structure Health (α : Type) where
  current : α
  max : α
  boosts : List (Boost α) := []
  deriving DecidableEq, Repr

namespace Health

variable {α : Type} [Quantity α]

/-- A pool with another maximum, to which it is lowered if it is above. -/
def withMax (h : Health α) (max : α) : Health α :=
  { h with max := max, current := Quantity.min h.current max }

/-- Changes the maximum, not below zero; with an expiry, only until then. -/
def adjustMax (h : Health α) (amount : α) (expiresAt : Option Nat) : Health α :=
  let max := Quantity.positivePart (h.max + amount)
  let changed := h.withMax max
  match expiresAt with
  | none => changed
  | some tick => { changed with boosts := h.boosts ++ [⟨max - h.max, tick⟩] }

def setMax (h : Health α) (value : α) : Health α :=
  { h.withMax (Quantity.positivePart value) with boosts := [] }

/-- Takes back the changes that have lapsed at a tick; the second answer counts them. -/
def expire (h : Health α) (tick : Nat) : Health α × Nat :=
  let lapsed := h.boosts.filter fun b => b.expiresAt ≤ tick
  if lapsed.isEmpty then (h, 0)
  else
    let undo := Quantity.sum (lapsed.map (·.applied))
    ({ h.withMax (Quantity.positivePart (h.max - undo)) with
        boosts := h.boosts.filter fun b => !(b.expiresAt ≤ tick) }, lapsed.length)

def damage (h : Health α) (amount : α) : Health α :=
  { h with current := Quantity.positivePart (h.current - amount) }

def heal (h : Health α) (amount : α) : Health α :=
  { h with current := Quantity.min (h.current + amount) h.max }

/-- Sets the pool to the nearest value from zero to the maximum; there is none when the maximum is
below zero. -/
def setCurrent? (h : Health α) (value : α) : Option (Health α) :=
  (Quantity.confine? 0 h.max value).map fun current => { h with current := current }

end Health

end Grimoire
