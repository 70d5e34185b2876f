import Grimoire.World.Health
import Grimoire.World.Position
import Grimoire.World.Stats
import Grimoire.World.Statuses

/-! # Components

What an entity can carry.  A component is kept under a name, and nothing stops an entity from keeping
one kind of component under the name of another.  A `Slot` is a well-known name together with the one
kind that counts there; whatever else is kept under the name is treated as absent.
-/

namespace Grimoire

/-- The form an entity goes back to, and when. -/
structure Transformation where
  formerType : String
  expiresAt : Option Nat
  deriving DecidableEq, Repr

/-- Whether a transformation ends at a tick; without an expiry it never does. -/
def Transformation.isLapsed (t : Transformation) (tick : Nat) : Bool :=
  match t.expiresAt with
  | none => false
  | some expiry => expiry ≤ tick

structure ItemStack where
  itemId : String
  count : Nat
  deriving DecidableEq, Repr

inductive Component (α : Type) where
  | position (p : Position α)
  | facing (degrees : α)
  | health (h : Health α)
  | faction (name : String)
  | stats (s : StatBlock α)
  | statuses (s : Statuses)
  | transformed (t : Transformation)
  | item (stack : ItemStack)
  | material (name : String)
  /-- A component that says nothing but that it is there. -/
  | marker

/-- A well-known name and the kind of component that counts there. -/
structure Slot (α β : Type) where
  name : String
  wrap : β → Component α
  unwrap? : Component α → Option β
  unwrap?_wrap : ∀ x, unwrap? (wrap x) = some x

namespace Slot

variable {α : Type}

def position : Slot α (Position α) :=
  ⟨"position", .position, fun | .position p => some p | _ => none, fun _ => rfl⟩

def facing : Slot α α :=
  ⟨"facing", .facing, fun | .facing d => some d | _ => none, fun _ => rfl⟩

def health : Slot α (Health α) :=
  ⟨"health", .health, fun | .health h => some h | _ => none, fun _ => rfl⟩

def faction : Slot α String :=
  ⟨"faction", .faction, fun | .faction n => some n | _ => none, fun _ => rfl⟩

def stats : Slot α (StatBlock α) :=
  ⟨"stats", .stats, fun | .stats s => some s | _ => none, fun _ => rfl⟩

def statuses : Slot α Statuses :=
  ⟨"statuses", .statuses, fun | .statuses s => some s | _ => none, fun _ => rfl⟩

def transformed : Slot α Transformation :=
  ⟨"transformed", .transformed, fun | .transformed t => some t | _ => none, fun _ => rfl⟩

def item : Slot α ItemStack :=
  ⟨"item", .item, fun | .item i => some i | _ => none, fun _ => rfl⟩

def material : Slot α String :=
  ⟨"material", .material, fun | .material n => some n | _ => none, fun _ => rfl⟩

/-! ## Names -/

@[simp] theorem name_position : (position : Slot α _).name = "position" := rfl

@[simp] theorem name_health : (health : Slot α _).name = "health" := rfl

@[simp] theorem name_stats : (stats : Slot α _).name = "stats" := rfl

@[simp] theorem name_material : (material : Slot α _).name = "material" := rfl

@[simp] theorem name_statuses : (statuses : Slot α _).name = "statuses" := rfl

@[simp] theorem name_transformed : (transformed : Slot α _).name = "transformed" := rfl

@[simp] theorem name_item : (item : Slot α _).name = "item" := rfl

end Slot

end Grimoire
