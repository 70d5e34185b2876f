import Grimoire.Effect.Basic

/-! # Requests

What is not run at once is asked for: a request says what to run, for whom and when.  A request is
due at one tick, or at the ticks from the first to the last that are whole periods apart.
-/

namespace Grimoire

inductive Work (α : Type) where
  /-- An effect, whose selector is resolved when it is run. -/
  | effect (e : Effect α)
  | operations (target : EntityId) (ops : List (Operation α))

structure Request (α : Type) where
  caster : EntityId
  target : Option EntityId
  dueTick : Nat
  period : Option Nat := none
  lastTick : Option Nat := none
  work : Work α

/-- The most ticks that a list can hold: its bytes, eight for every tick, are counted by a signed word.  To
ask for a longer list breaks off. -/
def maxListed : Nat := 1152921504606846975

/-- How many ticks from the first to the last are whole periods apart. -/
def periodicCount (first last period : Nat) : Nat :=
  if last < first then 0 else (last - first) / period + 1

def ticksFrom (first period count : Nat) : List Nat :=
  (List.range count).map fun i => first + i * period

/-- The ticks from the first to the last that are whole periods apart, unless they are too many. -/
def periodicTicks (first last period : Nat) : Option (List Nat) :=
  let count := periodicCount first last period
  if count ≤ maxListed then some (ticksFrom first period count) else none

namespace Request

variable {α : Type}

/-- The ticks at which a request is due, ascending, unless they are too many to be listed. -/
def dueTicks (r : Request α) : Option (List Nat) :=
  match r.period, r.lastTick with
  | some period, some last =>
    if 0 < period then periodicTicks r.dueTick last period else some [r.dueTick]
  | _, _ => some [r.dueTick]

def isDueAt (r : Request α) (tick : Nat) : Bool :=
  match r.period, r.lastTick with
  | some period, some last =>
    if 0 < period then
      decide (r.dueTick ≤ tick) && decide (tick ≤ last) && (tick - r.dueTick) % period == 0
    else tick == r.dueTick
  | _, _ => tick == r.dueTick

end Request

end Grimoire
