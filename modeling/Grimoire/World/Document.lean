import Grimoire.World.Basic

/-! # Worlds in documents

How what a world holds is written and read back.  Numbers that are not finite are written `null`, so
only a world without them can be read back.
-/

namespace Grimoire

open Json Record

/-! ## Places -/

namespace Position

def toJson (p : Position Float) : Json := .record [("x", .ofFloat p.x), ("y", .ofFloat p.y)]

def columns : Columns := ⟨["x", "y"], 2⟩

def ofMembers (members : List (String × Json)) : Placed (Position Float) :=
  mk <$> required members "x" asFloat <*> required members "y" asFloat

def ofJson : Json → Except DecodeFault (Position Float) := asRecord columns ofMembers

end Position

namespace Bounds

def toJson (b : Bounds Float) : Json := .record [("min", b.low.toJson), ("max", b.high.toJson)]

def ofJson : Json → Except DecodeFault (Bounds Float) := asRecord ⟨["min", "max"], 2⟩ fun members =>
  mk <$> required members "min" Position.ofJson <*> required members "max" Position.ofJson

end Bounds

/-! ## Components -/

def writeExpiry : Option Nat → Json := .ofOption .ofNat

def readExpiry (members : List (String × Json)) : Placed (Option Nat) :=
  optional members "expires_at" (asOption (asNat maxTick)) none

namespace Health

def writeBoost (b : Boost Float) : Json :=
  .record [("applied", .ofFloat b.applied), ("expires_at", .ofNat b.expiresAt)]

def readBoost : Json → Except DecodeFault (Boost Float) :=
  asRecord ⟨["applied", "expires_at"], 2⟩ fun members =>
    Boost.mk <$> required members "applied" asFloat
      <*> required members "expires_at" (asNat maxTick)

/-- The members of a written pool; outstanding changes are left out when there are none. -/
def toMembers (h : Health Float) : List (String × Json) :=
  [("current", .ofFloat h.current), ("max", .ofFloat h.max)] ++
    if h.boosts.isEmpty then [] else [("boosts", .ofList writeBoost h.boosts)]

def toJson (h : Health Float) : Json := .record h.toMembers

def ofMembers (members : List (String × Json)) : Placed (Health Float) :=
  mk <$> required members "current" asFloat <*> required members "max" asFloat
    <*> optional members "boosts" (asList readBoost) []

end Health

namespace StatBlock

def writeModifier (m : StatModifier Float) : Json :=
  .record [("stat", .text m.stat), ("amount", .ofFloat m.amount),
    ("expires_at", writeExpiry m.expiresAt)]

def readModifier : Json → Except DecodeFault (StatModifier Float) :=
  asRecord ⟨["stat", "amount", "expires_at"], 3⟩ fun members =>
    StatModifier.mk <$> required members "stat" asText <*> required members "amount" asFloat
      <*> readExpiry members

def toMembers (s : StatBlock Float) : List (String × Json) :=
  [("base", ofTable .ofFloat s.base), ("modifiers", .ofList writeModifier s.modifiers)]

def toJson (s : StatBlock Float) : Json := .record s.toMembers

def ofMembers (members : List (String × Json)) : Placed (StatBlock Float) :=
  mk <$> optional members "base" (asTable asFloat) ∅
    <*> optional members "modifiers" (asList readModifier) []

end StatBlock

namespace StatusEntry

def toJson (e : StatusEntry) : Json :=
  .record [("stacks", .ofNat e.count), ("expires_at", writeExpiry e.expiresAt)]

def ofJson : Json → Except DecodeFault StatusEntry :=
  asRecord ⟨["stacks", "expires_at"], 2⟩ fun members =>
    mk <$> required members "stacks" (asNat maxCount) <*> readExpiry members

end StatusEntry

namespace Statuses

def toMembers (s : Statuses) : List (String × Json) :=
  [("entries", ofTable StatusEntry.toJson s.entries)]

def toJson (s : Statuses) : Json := .record s.toMembers

def ofMembers (members : List (String × Json)) : Placed Statuses :=
  mk <$> optional members "entries" (asTable StatusEntry.ofJson) ∅

end Statuses

namespace Transformation

def toMembers (t : Transformation) : List (String × Json) :=
  [("original_type", .text t.formerType), ("expires_at", writeExpiry t.expiresAt)]

def toJson (t : Transformation) : Json := .record t.toMembers

def ofMembers (members : List (String × Json)) : Placed Transformation :=
  mk <$> required members "original_type" asText <*> readExpiry members

end Transformation

namespace ItemStack

def toMembers (i : ItemStack) : List (String × Json) :=
  [("item_id", .text i.itemId), ("count", .ofNat i.count)]

def toJson (i : ItemStack) : Json := .record i.toMembers

def ofMembers (members : List (String × Json)) : Placed ItemStack :=
  mk <$> required members "item_id" asText <*> required members "count" (asNat maxCount)

end ItemStack

namespace Component

def toJson : Component Float → Json
  | position p => .record [("kind", .text "position"), ("x", .ofFloat p.x), ("y", .ofFloat p.y)]
  | facing d => .record [("kind", .text "facing"), ("degrees", .ofFloat d)]
  | health h => .record (("kind", .text "health") :: h.toMembers)
  | faction n => .record [("kind", .text "faction"), ("name", .text n)]
  | stats s => .record (("kind", .text "stats") :: s.toMembers)
  | statuses s => .record (("kind", .text "statuses") :: s.toMembers)
  | transformed t => .record (("kind", .text "transformed") :: t.toMembers)
  | item i => .record (("kind", .text "item") :: i.toMembers)
  | material n => .record [("kind", .text "material"), ("name", .text n)]
  | marker => .record [("kind", .text "marker")]

def kinds : List (Kind Json (Component Float)) :=
  [⟨["position"], Position.columns, fun members => position <$> Position.ofMembers members⟩,
   ⟨["facing"], ⟨["degrees"], 1⟩, fun members =>
     facing <$> required members "degrees" asFloat⟩,
   ⟨["health"], ⟨["current", "max", "boosts"], 2⟩, fun members =>
     health <$> Health.ofMembers members⟩,
   ⟨["faction"], ⟨["name"], 1⟩, fun members => faction <$> required members "name" asText⟩,
   ⟨["stats"], ⟨["base", "modifiers"], 0⟩, fun members =>
     stats <$> StatBlock.ofMembers members⟩,
   ⟨["statuses"], ⟨["entries"], 0⟩, fun members => statuses <$> Statuses.ofMembers members⟩,
   ⟨["transformed"], ⟨["original_type", "expires_at"], 2⟩, fun members =>
     transformed <$> Transformation.ofMembers members⟩,
   ⟨["item"], ⟨["item_id", "count"], 2⟩, fun members => item <$> ItemStack.ofMembers members⟩,
   ⟨["material"], ⟨["name"], 1⟩, fun members => material <$> required members "name" asText⟩,
   ⟨["marker"], ⟨[], 0⟩, fun _ => .found marker⟩]

def ofJson : Json → Except DecodeFault (Component Float) := Kind.ofJson .name kinds "kind"

end Component

/-! ## Entities, events and worlds -/

namespace Entity

def toJson (e : Entity Float) : Json :=
  .record [("id", .ofNat e.id), ("entity_type", .text e.typeName),
    ("components", ofTable Component.toJson e.components)]

def ofJson : Json → Except DecodeFault (Entity Float) :=
  asRecord ⟨["id", "entity_type", "components"], 2⟩ fun members =>
    mk <$> required members "id" (asNat maxCount) <*> required members "entity_type" asText
      <*> optional members "components" (asTable Component.ofJson) ∅

end Entity

namespace Event

def toJson (e : Event Float) : Json :=
  .record [("eventType", .text e.name), ("source", .ofOption .ofNat e.source),
    ("target", .ofOption .ofNat e.target), ("tick", .ofNat e.tick),
    ("payload", ofTable Value.toJson e.payload)]

def ofJson : Json → Except DecodeFault (Event Float) :=
  asRecord ⟨["eventType", "source", "target", "tick", "payload"], 4⟩ fun members =>
    mk <$> required members "eventType" asText
      <*> optional members "source" (asOption (asNat maxCount)) none
      <*> optional members "target" (asOption (asNat maxCount)) none
      <*> required members "tick" (asNat maxTick)
      <*> optional members "payload" (asTable Value.ofJson) ∅

end Event

def TickReport.toJson (r : TickReport) : Json :=
  .record [("tick", .ofNat r.tick),
    ("expired_statuses",
      .ofList (fun (id, s) => Json.list [.ofNat id, .text s]) r.expiredStatuses),
    ("lapsed_modifiers", .ofNat r.lapsedModifiers), ("reverted", .ofList .ofNat r.reverted)]

namespace World

def toJson (w : World Float) : Json :=
  .record
    [("entities", .record (w.entities.toList.map fun (id, e) => (toString id, e.toJson))),
     ("next_id", .ofNat w.nextId), ("tick", .ofNat w.tick), ("bounds", w.bounds.toJson),
     ("events", .ofList Event.toJson w.events.toList),
     ("event_capacity", .ofOption .ofNat w.eventCapacity)]

/-- The number that a member of the table of entities is written under. -/
def readKey (name : String) : Except DecodeFault EntityId :=
  match name.toNat? with
  | none => .error .shape
  | some id => if toString id = name ∧ id ≤ maxCount then .ok id else .error .shape

def readEntity (member : String × Json) : Except DecodeFault (EntityId × Entity Float) := do
  let id ← readKey member.1
  let e ← Entity.ofJson member.2
  pure (id, e)

def readEntities :
    Json → Except DecodeFault (Std.ExtTreeMap EntityId (Entity Float) compare)
  | .record members => (members.mapM readEntity).map fun all => .ofList all compare
  | _ => .error .shape

def columns : Columns := ⟨["entities", "next_id", "tick", "bounds", "events", "event_capacity"], 6⟩

def ofJson : Json → Except DecodeFault (World Float) := asRecord columns fun members =>
  mk <$> required members "entities" readEntities <*> required members "next_id" (asNat maxCount)
    <*> required members "tick" (asNat maxTick) <*> required members "bounds" Bounds.ofJson
    <*> (List.toArray <$> required members "events" (asList Event.ofJson))
    <*> optional members "event_capacity" (asOption (asNat maxTick)) none

end World

end Grimoire
