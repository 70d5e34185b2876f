import Grimoire.Names
import Grimoire.Target.Selector

/-! # Actions

What an effect does to one target.  Numbers are expressions, which are evaluated when the action is
performed; names are texts, which are checked before.
-/

namespace Grimoire

/-- A point or a direction that is computed. -/
structure Coordinates (α : Type) where
  x : Expr α
  y : Expr α

/-- How many stacks of a status are removed. -/
inductive StackCount (α : Type) where
  | all
  | count (e : Expr α)

inductive Action (α : Type) where
  /-- Damages the target; an amount below zero heals it. -/
  | dealDamage (damageType : String) (amount : Expr α)
  | heal (amount : Expr α)
  /-- Adds stacks of a status, for a time or for good. -/
  | applyStatus (status : String) (duration : Option (Expr α)) (count : Expr α)
  | removeStatus (status : String) (count : StackCount α)
  /-- Changes a stat, for a time or for good. -/
  | modifyStat (stat : String) (amount : Expr α) (duration : Option (Expr α))
  | setStat (stat : String) (value : Expr α)
  | teleport (destination : Coordinates α)
  /-- Moves the target in a direction, or away from the caster. -/
  | push (direction : Option (Coordinates α)) (distance : Expr α)
  /-- Moves the target toward a point, or toward the caster. -/
  | pull (toward : Option (Coordinates α)) (distance : Expr α)
  /-- Adds entities to the world, at a point or where the caster is. -/
  | spawnEntity (entityType : String) (count : Expr α) (place : Option (Coordinates α))
  /-- Adds items to the world, at a point or where the caster is. -/
  | spawnItem (itemId : String) (count : Expr α) (place : Option (Coordinates α))
  /-- Turns the target into another type, for a time or for good. -/
  | transformEntity (toType : String) (duration : Option (Expr α))
  /-- Turns what the target is made of into another material. -/
  | transformMaterial (source result : String)
  | emitEvent (eventType : String) (payload : NameMap (Expr α))

namespace Action

def name {α : Type} : Action α → String
  | dealDamage .. => "deal_damage"
  | heal .. => "heal"
  | applyStatus .. => "apply_status"
  | removeStatus .. => "remove_status"
  | modifyStat .. => "modify_stat"
  | setStat .. => "set_stat"
  | teleport .. => "teleport"
  | push .. => "push"
  | pull .. => "pull"
  | spawnEntity .. => "spawn_entity"
  | spawnItem .. => "spawn_item"
  | transformEntity .. => "transform_entity"
  | transformMaterial .. => "transform_material"
  | emitEvent .. => "emit_event"

end Action

end Grimoire
