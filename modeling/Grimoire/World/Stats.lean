import Grimoire.Names
import Grimoire.Number.Scalar

/-! # Stats

A stat's effective value is its base plus the modifiers on it.  A change for good goes into the base,
a change for a time is a modifier that lapses, and setting a stat drops its modifiers.
-/

namespace Grimoire

/-- A change of a stat on top of its base. -/
structure StatModifier (α : Type) where
  stat : String
  amount : α
  expiresAt : Option Nat
  deriving DecidableEq, Repr

namespace StatModifier

/-- Whether a modifier has lapsed at a tick; without an expiry it never does. -/
def isLapsed {α : Type} (m : StatModifier α) (tick : Nat) : Bool :=
  match m.expiresAt with
  | none => false
  | some expiry => expiry ≤ tick

end StatModifier

structure StatBlock (α : Type) where
  base : NameMap α := ∅
  modifiers : List (StatModifier α) := []

namespace StatBlock

variable {α : Type}

/-- Takes away the modifiers that have lapsed at a tick; the second answer counts them. -/
def expire (s : StatBlock α) (tick : Nat) : StatBlock α × Nat :=
  let kept := s.modifiers.filter fun m => !m.isLapsed tick
  ({ s with modifiers := kept }, s.modifiers.length - kept.length)

def addModifier (s : StatBlock α) (stat : String) (amount : α) (expiresAt : Option Nat) :
    StatBlock α :=
  { s with modifiers := s.modifiers ++ [⟨stat, amount, expiresAt⟩] }

def setBase (s : StatBlock α) (stat : String) (value : α) : StatBlock α :=
  { base := s.base.insert stat value, modifiers := s.modifiers.filter fun m => m.stat != stat }

variable [Quantity α]

def baseOf (s : StatBlock α) (stat : String) : α := s.base.getD stat 0

def effective (s : StatBlock α) (stat : String) : α :=
  s.baseOf stat + Quantity.sum ((s.modifiers.filter fun m => m.stat == stat).map (·.amount))

def addBase (s : StatBlock α) (stat : String) (amount : α) : StatBlock α :=
  { s with base := s.base.insert stat (s.baseOf stat + amount) }

def change (s : StatBlock α) (stat : String) (amount : α) : Option Nat → StatBlock α
  | none => s.addBase stat amount
  | some expiry => s.addModifier stat amount (some expiry)

end StatBlock

end Grimoire
