import Grimoire.Names
import Grimoire.Number.Scalar

/-! # Statuses

A status has stacks and may lapse.  Applying it again adds stacks and keeps the later expiry; a status
that was ever applied for good stays for good.  Nothing is left of a status without stacks.
-/

namespace Grimoire

/-- The stacks of a status and when it lapses. -/
structure StatusEntry where
  count : Nat
  expiresAt : Option Nat
  deriving DecidableEq, Repr

structure Statuses where
  entries : NameMap StatusEntry := ∅

namespace Statuses

/-- The later of two expiries; without an expiry a status never lapses. -/
def laterExpiry : Option Nat → Option Nat → Option Nat
  | some a, some b => some (max a b)
  | _, _ => none

def merge (old : Option StatusEntry) (count : Nat) (expiresAt : Option Nat) : StatusEntry :=
  match old with
  | none => ⟨min count maxCount, expiresAt⟩
  | some e => ⟨min (e.count + count) maxCount, laterExpiry e.expiresAt expiresAt⟩

def get? (s : Statuses) (status : String) : Option StatusEntry := s.entries[status]?

def stackCount (s : Statuses) (status : String) : Nat :=
  match s.get? status with
  | none => 0
  | some e => e.count

def apply (s : Statuses) (status : String) (count : Nat) (expiresAt : Option Nat) : Statuses :=
  ⟨s.entries.insert status (merge (s.get? status) count expiresAt)⟩

/-- How many stacks a removal takes: so many, or all, but not more than there are. -/
def removable (s : Statuses) (status : String) (count : Option Nat) : Nat :=
  match count with
  | none => s.stackCount status
  | some n => min n (s.stackCount status)

def remove (s : Statuses) (status : String) (count : Option Nat) : Statuses :=
  match s.get? status with
  | none => s
  | some e =>
    let left := e.count - s.removable status count
    if left = 0 then ⟨s.entries.erase status⟩ else ⟨s.entries.insert status { e with count := left }⟩

def isLapsed (e : StatusEntry) (tick : Nat) : Bool :=
  match e.expiresAt with
  | none => false
  | some expiry => expiry ≤ tick

def lapsed (s : Statuses) (tick : Nat) : List String :=
  (s.entries.toList.filter fun (_, e) => isLapsed e tick).map (·.1)

def expire (s : Statuses) (tick : Nat) : Statuses :=
  ⟨s.entries.filter fun _ e => !isLapsed e tick⟩

/-! ## Entries after a change -/

theorem get?_apply (s : Statuses) (status : String) (count : Nat) (expiresAt : Option Nat) :
    (s.apply status count expiresAt).get? status = some (merge (s.get? status) count expiresAt) := by
  simp [get?, apply]

theorem get?_apply_of_ne (s : Statuses) {status other : String} (count : Nat)
    (expiresAt : Option Nat) (h : status ≠ other) :
    (s.apply status count expiresAt).get? other = s.get? other := by
  simp [get?, apply, Std.ExtTreeMap.getElem?_insert, h]

theorem removable_le (s : Statuses) (status : String) (count : Option Nat) :
    s.removable status count ≤ s.stackCount status := by
  cases count with
  | none => exact Nat.le_refl _
  | some n => exact Nat.min_le_right ..

theorem stackCount_remove (s : Statuses) (status : String) (count : Option Nat) :
    (s.remove status count).stackCount status =
      s.stackCount status - s.removable status count := by
  cases h : s.get? status with
  | none => simp [remove, stackCount, h]
  | some e =>
    have held : s.stackCount status = e.count := by simp [stackCount, h]
    rw [held]
    simp only [remove, h]
    by_cases left : e.count - s.removable status count = 0
    · simp [left, stackCount, get?]
    · simp [left, stackCount, get?]

theorem get?_remove_of_ne (s : Statuses) {status other : String} (count : Option Nat)
    (h : status ≠ other) : (s.remove status count).get? other = s.get? other := by
  unfold remove
  cases s.get? status with
  | none => rfl
  | some e =>
    dsimp only
    split <;> simp [get?, Std.ExtTreeMap.getElem?_insert, Std.ExtTreeMap.getElem?_erase, h]

theorem get?_expire (s : Statuses) (tick : Nat) (status : String) :
    (s.expire tick).get? status = (s.get? status).filter (!isLapsed · tick) := by
  simp [get?, expire, Std.ExtTreeMap.getElem?_filter]

end Statuses

end Grimoire
