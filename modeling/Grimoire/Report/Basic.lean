import Grimoire.Governor
import Grimoire.Report.Request
import Grimoire.World.Event
import Grimoire.World.Position

/-! # Reports

A report says what a call did.  It is written while the call runs, and a call that fails leaves the
report of what was done before.
-/

namespace Grimoire

inductive Change (α : Type) where
  | health (target : EntityId) (before after : α)
  | maxHealth (target : EntityId) (before after : α) (expiresAt : Option Nat)
  | stat (target : EntityId) (stat : String) (before after : α) (expiresAt : Option Nat)
  | statusRemoved (target : EntityId) (status : String) (count : Nat)
  | moved (target : EntityId) (source : Option (Position α)) (goal : Position α)
  | spawned (entity : EntityId) (entityType : String) (place : Position α)
  | transformed (target : EntityId) (source result : String) (expiresAt : Option Nat)
  | material (target : EntityId) (source result : String)

structure AppliedStatus where
  target : EntityId
  status : String
  count : Nat
  /-- The stacks afterwards. -/
  total : Nat
  deriving DecidableEq, Repr

/-- Why a call that succeeded ran no operations. -/
inductive Reason where
  | conditionsNotMet
  | scheduled
  | participantGone
  deriving DecidableEq, Repr

structure Report (α : Type) where
  success : Bool := false
  reason : Option Reason := none
  effectId : Option String
  /-- The entities that operations were run on, in the order they were first met. -/
  affected : Array EntityId := #[]
  spawnCount : Nat := 0
  spawned : Array EntityId := #[]
  damageDealt : α
  healingDone : α
  /-- The bodies of chained effects that were entered, as a word that overflows. -/
  chainCount : UInt32 := 0
  /-- The operations that were begun, as a word that overflows. -/
  operations : UInt32 := 0
  statuses : Array AppliedStatus := #[]
  events : Array (Event α) := #[]
  changes : Array (Change α) := #[]
  clamps : Array (Clamp α) := #[]
  scheduled : Array (Request α) := #[]
  timing : Timing

namespace Report

variable {α : Type}

def start [Quantity α] (effectId : Option String) (timing : Timing) : Report α where
  effectId := effectId
  damageDealt := 0
  healingDone := 0
  timing := timing

def isClamped (r : Report α) : Bool := !r.clamps.isEmpty

end Report

/-- How a call failed, and what it did before. -/
structure Failure (α : Type) where
  fault : Fault
  done : Report α

def Failure.message {α : Type} (f : Failure α) : String := "effect fizzled: " ++ f.fault.message

abbrev Outcome (α : Type) := Except (Failure α) (Report α)

end Grimoire
