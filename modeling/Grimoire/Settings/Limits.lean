import Grimoire.Number.Scalar

/-! # Limits

The ceilings of one call.  Each may be absent.  The ceilings of damage and of spawns reduce what an
operation does; the others end the call.
-/

namespace Grimoire

structure Limits (α : Type) where
  /-- Operations that are begun. -/
  operations : Option Nat := none
  /-- Bodies of conditionals, repetitions, chains and triggers that are open at once. -/
  depth : Option Nat := none
  /-- Bodies of chains that are open at once. -/
  chainDepth : Option Nat := none
  /-- Entities that operations are run on. -/
  entities : Option Nat := none
  /-- Damage in all. -/
  damage : Option α := none
  /-- Spawned entities in all. -/
  spawns : Option Nat := none
  /-- Milliseconds. -/
  timeout : Option Nat := none
  deriving DecidableEq, Repr

namespace Limits

variable {α : Type}

def unlimited : Limits α := {}

def production [Scalar α] : Limits α where
  operations := some 1000
  depth := some 16
  chainDepth := some 5
  entities := some 100
  damage := some (Scalar.ofNat 10000)
  spawns := some 50
  timeout := some 50

end Limits

end Grimoire
