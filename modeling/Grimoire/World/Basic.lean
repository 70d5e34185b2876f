import Grimoire.World.Entity
import Grimoire.World.Event

/-! # Worlds

A world is a table of entities by number, a tick, bounds and a log of events.  Entities are listed by
ascending number.  In a world that has come about by the operations here, `nextId` is above every number
that was ever used; a world that is read from a document may say otherwise.  `World.advance` moves on by one
tick and removes whatever expires at the new tick.  That numbers or ticks run out is left aside.
-/

namespace Grimoire

structure World (α : Type) where
  entities : Std.ExtTreeMap EntityId (Entity α) compare := ∅
  nextId : EntityId := 1
  tick : Nat := 0
  bounds : Bounds α
  events : Array (Event α) := #[]
  /-- How many events the log holds; `none` when it never fills. -/
  eventCapacity : Option Nat := none

structure TickReport where
  tick : Nat
  expiredStatuses : List (EntityId × String)
  /-- How many changes of stats and of maxima of health ended. -/
  lapsedModifiers : Nat
  /-- The entities that went back to their former type. -/
  reverted : List EntityId
  deriving DecidableEq, Repr

namespace World

variable {α β : Type}

def empty [Scalar α] : World α := { bounds := .standard }

/-! ## Looking up -/

def entity? (w : World α) (id : EntityId) : Option (Entity α) := w.entities[id]?

def has (w : World α) (id : EntityId) : Bool := w.entities.contains id

def ids (w : World α) : List EntityId := w.entities.keys

def count (w : World α) : Nat := w.entities.size

def get? (w : World α) (id : EntityId) (slot : Slot α β) : Option β := (w.entity? id).bind (·.get? slot)

def withComponent (w : World α) (name : String) : List EntityId :=
  w.ids.filter fun id => ((w.entity? id).map (·.hasComponent name)).getD false

/-- The entities within a radius of a point, the edge included, ascending. -/
def within [Scalar α] (w : World α) (center : Position α) (radius : α) : List EntityId :=
  w.ids.filter fun id => match w.get? id .position with
    | none => false
    | some p => p.distance center ≤ radius

/-! ## Changing -/

def place (w : World α) (id : EntityId) (e : Entity α) : World α :=
  { w with entities := w.entities.insert id e }

def update (w : World α) (id : EntityId) (f : Entity α → Entity α) : World α :=
  match w.entity? id with
  | none => w
  | some e => w.place id (f e)

/-- Adds an entity under the next number, in place of one that has it already. -/
def spawn (w : World α) (build : EntityId → Entity α) : EntityId × World α :=
  let id := w.nextId
  (id, { w with nextId := id + 1 }.place id { build id with id := id })

def create (w : World α) (typeName : String) : EntityId × World α :=
  w.spawn fun id => { id := id, typeName := typeName }

/-- Adds an entity under its own number, in place of one that has it already. -/
def insert (w : World α) (e : Entity α) : World α :=
  { w with nextId := max w.nextId (min (e.id + 1) maxCount) }.place e.id e

def remove (w : World α) (id : EntityId) : World α := { w with entities := w.entities.erase id }

def isLogFull (w : World α) : Bool :=
  match w.eventCapacity with
  | none => false
  | some capacity => capacity ≤ w.events.size

/-- A world with one more event in its log, unless the log is full. -/
def emit? (w : World α) (event : Event α) : Option (World α) :=
  if w.isLogFull then none else some { w with events := w.events.push event }

/-! ## Looking up after a change -/

theorem has_eq_isSome (w : World α) (id : EntityId) : w.has id = (w.entity? id).isSome :=
  Std.ExtTreeMap.contains_eq_isSome_getElem?

theorem mem_ids {w : World α} {id : EntityId} : id ∈ w.ids ↔ w.has id = true := by
  simp [ids, has]

theorem entity?_place (w : World α) (id : EntityId) (e : Entity α) :
    (w.place id e).entity? id = some e := by
  simp [entity?, place]

theorem entity?_place_of_ne (w : World α) {id other : EntityId} (e : Entity α) (h : id ≠ other) :
    (w.place id e).entity? other = w.entity? other := by
  simp [entity?, place, Std.ExtTreeMap.getElem?_insert, h]

theorem found_of_place {w : World α} {id other : EntityId} {e e' : Entity α}
    (found : (w.place id e).entity? other = some e') :
    id = other ∧ e = e' ∨ id ≠ other ∧ w.entity? other = some e' := by
  by_cases same : id = other
  · subst same
    exact .inl ⟨rfl, Option.some.inj ((entity?_place ..).symm.trans found)⟩
  · exact .inr ⟨same, (entity?_place_of_ne w e same).symm.trans found⟩

theorem kept_by_place {w : World α} {other : EntityId} {e₁ : Entity α} (id : EntityId)
    (e : Entity α) (found : w.entity? other = some e₁) :
    id = other ∧ (w.place id e).entity? other = some e ∨
      id ≠ other ∧ (w.place id e).entity? other = some e₁ := by
  by_cases same : id = other
  · subst same
    exact .inl ⟨rfl, entity?_place ..⟩
  · exact .inr ⟨same, (entity?_place_of_ne w e same).trans found⟩

theorem get?_place (w : World α) (id : EntityId) (e : Entity α) (slot : Slot α β) :
    (w.place id e).get? id slot = e.get? slot := by
  simp [get?, entity?_place]

theorem get?_place_of_ne (w : World α) {id other : EntityId} (e : Entity α) (slot : Slot α β)
    (h : id ≠ other) : (w.place id e).get? other slot = w.get? other slot := by
  simp [get?, entity?_place_of_ne w e h]

theorem entity?_spawn (w : World α) (build : EntityId → Entity α) :
    (w.spawn build).2.entity? w.nextId = some { build w.nextId with id := w.nextId } :=
  entity?_place ..

theorem entity?_spawn_of_ne (w : World α) (build : EntityId → Entity α) {id : EntityId}
    (h : w.nextId ≠ id) : (w.spawn build).2.entity? id = w.entity? id :=
  entity?_place_of_ne _ _ h

theorem entity?_remove (w : World α) (id : EntityId) : (w.remove id).entity? id = none := by
  simp [entity?, remove]

theorem entity?_remove_of_ne (w : World α) {id other : EntityId} (h : id ≠ other) :
    (w.remove id).entity? other = w.entity? other := by
  simp [entity?, remove, Std.ExtTreeMap.getElem?_erase, h]

/-! ## Ticks -/

variable [Quantity α]

def lapsing (w : World α) (tick : Nat) : TickReport :=
  let all := w.entities.toList
  { tick := tick
    expiredStatuses := all.flatMap fun (id, e) => (e.lapsedStatuses tick).map fun s => (id, s)
    lapsedModifiers := all.foldl (fun n (_, e) => n + e.lapsedModifiers tick) 0
    reverted := (all.filter fun (_, e) => e.isReverting tick).map (·.1) }

def advance (w : World α) : TickReport × World α :=
  let tick := w.tick + 1
  (w.lapsing tick, { w with tick := tick, entities := w.entities.map fun _ e => e.lapse tick })

theorem entity?_advance (w : World α) (id : EntityId) :
    w.advance.2.entity? id = (w.entity? id).map (·.lapse (w.tick + 1)) := by
  simp [entity?, advance]

theorem get?_advance (w : World α) (id : EntityId) (slot : Slot α β) :
    w.advance.2.get? id slot = (w.entity? id).bind fun e => (e.lapse (w.tick + 1)).get? slot := by
  rw [get?, entity?_advance, Option.bind_map]
  rfl

end World

end Grimoire
