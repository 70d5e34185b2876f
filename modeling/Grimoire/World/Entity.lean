import Grimoire.Fault
import Grimoire.World.Component

/-! # Entities

An entity is a type and a table of components.  `Entity.get?` reads a slot and `Entity.put` writes
one; everything else here is made of the two.  `Entity.lapse` is what one tick does to an entity.
-/

namespace Grimoire

structure Entity (α : Type) where
  id : EntityId
  typeName : String
  components : NameMap (Component α) := ∅

namespace Entity

variable {α β γ : Type}

/-! ## Slots -/

def get? (e : Entity α) (slot : Slot α β) : Option β :=
  e.components[slot.name]?.bind slot.unwrap?

def put (e : Entity α) (slot : Slot α β) (x : β) : Entity α :=
  { e with components := e.components.insert slot.name (slot.wrap x) }

def clear (e : Entity α) (slot : Slot α β) : Entity α :=
  { e with components := e.components.erase slot.name }

def update (e : Entity α) (slot : Slot α β) (f : β → β) : Entity α :=
  match e.get? slot with
  | none => e
  | some x => e.put slot (f x)

theorem get?_put (e : Entity α) (slot : Slot α β) (x : β) : (e.put slot x).get? slot = some x := by
  simp [get?, put, slot.unwrap?_wrap]

theorem get?_put_of_ne (e : Entity α) (slot : Slot α β) (other : Slot α γ) (x : β)
    (h : slot.name ≠ other.name) : (e.put slot x).get? other = e.get? other := by
  simp [get?, put, Std.ExtTreeMap.getElem?_insert, h]

theorem get?_update (e : Entity α) (slot : Slot α β) (f : β → β) :
    (e.update slot f).get? slot = (e.get? slot).map f := by
  unfold update
  cases held : e.get? slot with
  | none => simp [held]
  | some x => exact e.get?_put slot (f x)

theorem get?_update_of_ne (e : Entity α) (slot : Slot α β) (other : Slot α γ) (f : β → β)
    (h : slot.name ≠ other.name) : (e.update slot f).get? other = e.get? other := by
  unfold update
  cases e.get? slot with
  | none => rfl
  | some x => exact e.get?_put_of_ne slot other _ h

/-! ## Components by name -/

def hasComponent (e : Entity α) (name : String) : Bool := e.components.contains name

def addComponent (e : Entity α) (name : String) (c : Component α) : Entity α :=
  { e with components := e.components.insert name c }

def removeComponent (e : Entity α) (name : String) : Entity α :=
  { e with components := e.components.erase name }

def componentNames (e : Entity α) : List String := e.components.keys

/-! ## Reading -/

def statBlock (e : Entity α) : StatBlock α := (e.get? .stats).getD {}

def statusTable (e : Entity α) : Statuses := (e.get? .statuses).getD {}

def statusStacks (e : Entity α) (status : String) : Nat := e.statusTable.stackCount status

section

variable [Quantity α]

/-- The heading of an entity in degrees, zero where none is set. -/
def heading (e : Entity α) : α := (e.get? .facing).getD 0

/-- The value of a stat.  Health and its maximum are read from the pool, other stats from the stats;
what is not there counts as zero. -/
def statValue (e : Entity α) (stat : String) : α :=
  if stat = "health" then ((e.get? .health).map (·.current)).getD 0
  else if stat = "maxHealth" then ((e.get? .health).map (·.max)).getD 0
  else ((e.get? .stats).map (·.effective stat)).getD 0

end

/-! ## Changing -/

/-- An entity turned into another type.  It remembers the type it had before the first of several
transformations. -/
def transform (e : Entity α) (typeName : String) (expiresAt : Option Nat) : Entity α :=
  let former := ((e.get? .transformed).map (·.formerType)).getD e.typeName
  { e with typeName := typeName }.put .transformed ⟨former, expiresAt⟩

/-! ## Ticks -/

def lapsedStatuses (e : Entity α) (tick : Nat) : List String :=
  ((e.get? .statuses).map (·.lapsed tick)).getD []

def isReverting (e : Entity α) (tick : Nat) : Bool :=
  ((e.get? .transformed).map (·.isLapsed tick)).getD false

/-- Takes an entity back to its former type if its transformation ends at a tick. -/
def revert (e : Entity α) (tick : Nat) : Entity α :=
  match e.get? .transformed with
  | none => e
  | some t =>
    if t.isLapsed tick then { e with typeName := t.formerType }.clear .transformed else e

variable [Quantity α]

/-- How many changes of stats and of the maximum of health end at a tick. -/
def lapsedModifiers (e : Entity α) (tick : Nat) : Nat :=
  ((e.get? .stats).map fun s => (s.expire tick).2).getD 0 +
    ((e.get? .health).map fun h => (h.expire tick).2).getD 0

/-- An entity after everything on it that ends at a tick has ended. -/
def lapse (e : Entity α) (tick : Nat) : Entity α :=
  (((e.update .statuses (·.expire tick)).update .stats fun s => (s.expire tick).1).update .health
    fun h => (h.expire tick).1).revert tick

end Entity

end Grimoire
