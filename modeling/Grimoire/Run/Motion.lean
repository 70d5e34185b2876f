import Grimoire.Run.Parameter

/-! # Movement

The actions that move the target.  Nothing moves out of the bounds of the world, and what has no place
is neither pushed nor pulled.
-/

namespace Grimoire

namespace Cast

variable {α : Type} [Scalar α]

/-- Moves the target to a point inside of the bounds; `operation` says in messages how. -/
def moveTo (target : EntityId) (operation : String) (goal : Position α) : Run α Unit := do
  checkBounds operation goal
  Run.onEntity target fun e =>
    Run.commit target (e.put .position goal)
      (Report.change (.moved target (e.get? .position) goal))

def teleport (c : Cast α) (target : EntityId) (destination : Coordinates α) : Run α Unit := do
  let goal ← c.evalPoint target destination
  moveTo target "teleport" goal

/-- Where a push goes: in the direction that is given, or away from the caster.  A target that stands
where the caster does is pushed along the caster's heading. -/
def pushDirection (c : Cast α) (target : EntityId) (source : Position α) :
    Option (Coordinates α) → Run α (Position α)
  | some direction => do
    let direction ← c.evalPoint target direction
    match direction.normalize? with
    | none => throw (.invalidPosition .zeroDirection)
    | some unit => pure unit
  | none => do
    let anchor ← c.casterPosition .push
    pure ((source - anchor).normalize?.getD (Shape.headingOf (← get).world c.caster))

def push (c : Cast α) (target : EntityId) (direction : Option (Coordinates α))
    (distance : Expr α) : Run α Unit := do
  let distance ← c.evalNumber target distance
  match (← get).world.get? target .position with
  | none => pure ()
  | some source =>
    let unit ← c.pushDirection target source direction
    moveTo target "push" (source + unit.scale distance)

/-- Where a pull goes: to the point that is given, or to the caster. -/
def pullAnchor (c : Cast α) (target : EntityId) : Option (Coordinates α) → Run α (Position α)
  | some toward => c.evalPoint target toward
  | none => c.casterPosition .pull

/-- How far a pull moves something that is `length` away: not past the anchor. -/
def pullStep (distance length : α) : α :=
  if 0 < distance then Quantity.min distance length else distance

def pull (c : Cast α) (target : EntityId) (toward : Option (Coordinates α))
    (distance : Expr α) : Run α Unit := do
  let distance ← c.evalNumber target distance
  match (← get).world.get? target .position with
  | none => pure ()
  | some source =>
    let anchor ← c.pullAnchor target toward
    let offset := anchor - source
    match offset.normalize? with
    | none => pure ()
    | some unit =>
      moveTo target "pull" (source + unit.scale (pullStep distance offset.length))

end Cast

end Grimoire
