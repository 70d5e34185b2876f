import Grimoire.Fault
import Grimoire.Settings.Limits
import Std.Data.ExtTreeSet

/-! # The governor

The counters of one call.  The ceilings are given to every step and are no part of the state, so two
calls under different ceilings can be compared while their counters agree.

Time is no part of the state either: a `Clock` says how much of it a call has taken by then.

The counter of operations is a word of 32 bits.  Nothing checks that it overflows, so after the last
number it starts again at zero, and the ceiling is asked for that.  (A build that checks its arithmetic
panics there instead.)

`path` holds the effects whose bodies are open.  An effect is entered only if it is not on the path,
and leaving it takes it off again, so the path is a stack without repetitions.  A step that is refused
changes nothing, with one exception: an operation is counted before it is refused.
-/

namespace Grimoire

structure Governor (α : Type) where
  /-- The operations that were begun, by which the clock goes. -/
  begun : Nat := 0
  depth : Nat := 0
  chainDepth : Nat := 0
  affected : Std.ExtTreeSet EntityId compare := ∅
  damage : α
  spawns : Nat := 0
  /-- The effects that are being run, the innermost first. -/
  path : List String := []

inductive Resource where
  | damage
  | spawns
  deriving DecidableEq, Repr

/-- A grant that fell short of what was asked for. -/
structure Clamp (α : Type) where
  resource : Resource
  requested : α
  granted : α
  target : Option EntityId
  deriving DecidableEq, Repr

abbrev Governed (α β : Type) := EStateM Fault (Governor α) β

/-- The milliseconds that a call has taken when it has begun so many operations. -/
abbrev Clock := Nat → Nat

def Clock.still : Clock := fun _ => 0

namespace Governor

variable {α : Type}

def start [Quantity α] : Governor α := { damage := 0 }

/-- The counter that the ceiling of operations is asked for. -/
def operations (g : Governor α) : UInt32 := .ofNat g.begun

def require (limit : Option Nat) (count : Nat) (refuse : Nat → Fault) : Governed α Unit :=
  match limit with
  | none => pure ()
  | some most => if count ≤ most then pure () else throw (refuse most)

/-! ## Ceilings that end a call -/

def checkpoint (limits : Limits α) (clock : Clock := .still) : Governed α Unit := do
  match limits.timeout with
  | none => pure ()
  | some budget => if budget ≤ clock (← get).begun then throw (.timeout budget)

def permitOperation (limits : Limits α) (clock : Clock := .still) : Governed α Unit := do
  checkpoint limits clock
  modify fun g => { g with begun := g.begun + 1 }
  require limits.operations (← get).operations.toNat .operationLimit

def begin (g : Governor α) (effect : String) : Governor α :=
  { g with path := g.path.insert effect }

def enterNested (limits : Limits α) : Governed α Unit := do
  require limits.depth ((← get).depth + 1) .depthLimit
  modify fun g => { g with depth := g.depth + 1 }

def exitNested (g : Governor α) : Governor α := { g with depth := g.depth - 1 }

def checkCycle (effect : String) : Governed α Unit := do
  if (← get).path.contains effect then throw (.chainLimit effect .cycle)

def enterChain (limits : Limits α) (effect : String) : Governed α Unit := do
  checkCycle effect
  require limits.chainDepth ((← get).chainDepth + 1) fun most => .chainLimit effect (.depth most)
  enterNested limits
  modify fun g => { g with chainDepth := g.chainDepth + 1, path := g.path.insert effect }

def exitChain (g : Governor α) (effect : String) : Governor α :=
  { g with path := g.path.erase effect, chainDepth := g.chainDepth - 1 }.exitNested

def enterTrigger (limits : Limits α) (effect : String) : Governed α Unit := do
  checkCycle effect
  enterNested limits
  modify fun g => { g with path := g.path.insert effect }

def exitTrigger (g : Governor α) (effect : String) : Governor α :=
  { g with path := g.path.erase effect }.exitNested

/-- Counts an entity that operations are about to be run on, once; the answer is whether it is new. -/
def enroll (limits : Limits α) (id : EntityId) : Governed α Bool := do
  if (← get).affected.contains id then
    pure false
  else
    require limits.entities ((← get).affected.size + 1) .entityLimit
    modify fun g => { g with affected := g.affected.insert id }
    pure true

/-! ## Ceilings that reduce -/

def damageLeft [Quantity α] (g : Governor α) (limits : Limits α) (requested : α) : α :=
  match limits.damage with
  | none => requested
  | some most => Quantity.min requested (Quantity.positivePart (most - g.damage))

def spawnsLeft (g : Governor α) (limits : Limits α) (requested : Nat) : Nat :=
  match limits.spawns with
  | none => requested
  | some most => min requested (most - g.spawns)

def grantDamage [Quantity α] (limits : Limits α) (requested : α) : Governed α α :=
  modifyGet fun g =>
    let granted := g.damageLeft limits requested
    (granted, { g with damage := g.damage + granted })

def grantSpawns (limits : Limits α) (requested : Nat) : Governed α Nat :=
  modifyGet fun g =>
    let granted := g.spawnsLeft limits requested
    (granted, { g with spawns := g.spawns + granted })

end Governor

end Grimoire
