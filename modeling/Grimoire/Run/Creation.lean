import Grimoire.Run.Parameter

/-! # Spawning, transformation and events

The actions that add entities to the world, turn the target into something else, and tell the outside
what happens.
-/

namespace Grimoire

namespace Cast

variable {α : Type} [Scalar α]

/-! ## Spawning -/

/-- What an entity that is spawned at a point carries, an item perhaps among it. -/
def furnish (place : Position α) (itemId : Option String) (e : Entity α) : Entity α :=
  let e := e.put .position place
  match itemId with
  | none => e
  | some itemId => e.put .item ⟨itemId, 1⟩

def spawnOne (typeName : String) (itemId : Option String) (place : Position α) : Run α Unit :=
  modify fun s =>
    let (id, world) := s.world.spawn fun id => furnish place itemId { id := id, typeName := typeName }
    { s with
      world := world
      report := { s.report with
        spawned := s.report.spawned.push id
        spawnCount := s.report.spawnCount + 1 }.change (.spawned id typeName place) }

def itemType : String := "item"

/-- Counts spawns as far as the ceiling allows; the answer is how many that are. -/
def allotSpawns (c : Cast α) (target : EntityId) (requested : Nat) : Run α Nat := do
  let granted ← Run.govern (Governor.grantSpawns c.settings.limits requested)
  if granted < requested then
    Run.note (Report.clamp ⟨.spawns, Scalar.ofNat requested, Scalar.ofNat granted, some target⟩)
  pure granted

def spawn (c : Cast α) (target : EntityId) (typeName : String) (itemId : Option String)
    (count : Expr α) (place : Option (Coordinates α)) : Run α Unit := do
  let requested ← c.evalCount target "spawn.count" count
  let place ← match place with
    | some place => c.evalPoint target place
    | none => c.casterPosition .spawn
  checkBounds "spawn" place
  let granted ← c.allotSpawns target requested
  Run.times granted (spawnOne typeName itemId place)

def spawnEntity (c : Cast α) (target : EntityId) (entityType : String) (count : Expr α)
    (place : Option (Coordinates α)) : Run α Unit := do
  Run.check (c.settings.vocabulary.checkEntityType entityType)
  c.spawn target entityType none count place

def spawnItem (c : Cast α) (target : EntityId) (itemId : String) (count : Expr α)
    (place : Option (Coordinates α)) : Run α Unit := do
  Run.check (c.settings.vocabulary.checkItem itemId)
  c.spawn target itemType (some itemId) count place

/-! ## Transformation -/

def transformEntity (c : Cast α) (target : EntityId) (toType : String)
    (duration : Option (Expr α)) : Run α Unit := do
  Run.check (c.settings.vocabulary.checkEntityType toType)
  let expiresAt ← c.expiry target "transform_entity.duration" duration
  Run.onEntity target fun e =>
    Run.commit target (e.transform toType expiresAt)
      (Report.change (.transformed target e.typeName toType expiresAt))

/-- Turns what the target is made of into another material, if it is made of the first. -/
def transformMaterial (c : Cast α) (target : EntityId) (source result : String) :
    Run α Unit := do
  Run.check (c.settings.vocabulary.checkMaterial source)
  Run.check (c.settings.vocabulary.checkMaterial result)
  Run.onEntity target fun e =>
    if e.get? .material = some source then
      Run.commit target (e.put .material result)
        (Report.change (.material target source result))
    else pure ()

/-! ## Events -/

def evalPayload (c : Cast α) (target : EntityId) :
    List (String × Expr α) → Run α (List (String × Value α))
  | [] => pure []
  | (key, e) :: rest => do
    Run.check (Vocabulary.checkIdentifier "payload key" key)
    let v ← c.eval target e
    let values ← c.evalPayload target rest
    pure ((key, v) :: values)

def emit (event : Event α) : Run α Unit := do
  let s ← get
  match s.world.emit? event with
  | none => throw (.eventRejected event.name)
  | some world =>
    set { s with
      world := world
      report := { s.report with events := s.report.events.push event } }

def emitEvent (c : Cast α) (target : EntityId) (eventType : String)
    (payload : NameMap (Expr α)) : Run α Unit := do
  Run.check (Vocabulary.checkIdentifier "event type" eventType)
  let values ← c.evalPayload target payload.toList
  emit
    { name := eventType
      source := some c.caster
      target := some target
      tick := c.tick
      payload := NameMap.ofPairs values }

end Cast

end Grimoire
