import Grimoire.Effect.Document
import Grimoire.Report.Basic
import Grimoire.World.Document

/-! # Reports and requests in documents

Reports are only written; a request can be read back, so that a host can keep it.
-/

namespace Grimoire

open Json Record

namespace Work

def toJson : Work Float → Json
  | effect e => .record [("kind", .text "effect"), ("effect", e.toJson)]
  | operations target ops =>
    .record [("kind", .text "operations"), ("target", .ofNat target),
      ("operations", .list (Operation.toJsonAll ops))]

def kinds : List (Kind Json (Work Float)) :=
  [⟨["effect"], ⟨["effect"], 1⟩, fun members =>
     effect <$> required members "effect" Effect.ofHeld⟩,
   ⟨["operations"], ⟨["target", "operations"], 2⟩, fun members =>
     operations <$> required members "target" (asNat maxCount)
       <*> required members "operations" Operation.ofList⟩]

def ofJson : Json → Except DecodeFault (Work Float) := Kind.ofJson .name kinds "kind"

end Work

namespace Request

def toJson (r : Request Float) : Json :=
  .record
    [("caster", .ofNat r.caster), ("target", .ofOption .ofNat r.target),
     ("dueTick", .ofNat r.dueTick), ("period", .ofOption .ofNat r.period),
     ("lastTick", .ofOption .ofNat r.lastTick), ("work", r.work.toJson)]

def ofJson : Json → Except DecodeFault (Request Float) :=
  asRecord ⟨["caster", "target", "dueTick", "period", "lastTick", "work"], 6⟩ fun members =>
    mk <$> required members "caster" (asNat maxCount)
      <*> optional members "target" (asOption (asNat maxCount)) none
      <*> required members "dueTick" (asNat maxTick)
      <*> optional members "period" (asOption (asNat maxTick)) none
      <*> optional members "lastTick" (asOption (asNat maxTick)) none
      <*> required members "work" Work.ofJson

def read? (s : String) : Option (Request Float) := (decode ofJson s).toOption

end Request

namespace Change

def toJson : Change Float → Json
  | health target before after =>
    .record [("kind", .text "health"), ("target", .ofNat target), ("before", .ofFloat before),
      ("after", .ofFloat after)]
  | maxHealth target before after expiresAt =>
    .record [("kind", .text "max_health"), ("target", .ofNat target), ("before", .ofFloat before),
      ("after", .ofFloat after), ("expiresAt", writeExpiry expiresAt)]
  | stat target name before after expiresAt =>
    .record [("kind", .text "stat"), ("target", .ofNat target), ("stat", .text name),
      ("before", .ofFloat before), ("after", .ofFloat after),
      ("expiresAt", writeExpiry expiresAt)]
  | statusRemoved target status count =>
    .record [("kind", .text "status_removed"), ("target", .ofNat target),
      ("status", .text status), ("stacks", .ofNat count)]
  | moved target source goal =>
    .record [("kind", .text "moved"), ("target", .ofNat target),
      ("from", .ofOption Position.toJson source), ("to", goal.toJson)]
  | spawned entity entityType place =>
    .record [("kind", .text "spawned"), ("entity", .ofNat entity),
      ("entityType", .text entityType), ("at", place.toJson)]
  | transformed target source result expiresAt =>
    .record [("kind", .text "transformed"), ("target", .ofNat target),
      ("fromType", .text source), ("toType", .text result), ("expiresAt", writeExpiry expiresAt)]
  | material target source result =>
    .record [("kind", .text "material"), ("target", .ofNat target), ("from", .text source),
      ("to", .text result)]

end Change

def AppliedStatus.toJson (s : AppliedStatus) : Json :=
  .record [("target", .ofNat s.target), ("status", .text s.status), ("stacks", .ofNat s.count),
    ("total", .ofNat s.total)]

def Resource.word : Resource → String
  | damage => "damage"
  | spawns => "spawns"

def Clamp.toJson (c : Clamp Float) : Json :=
  .record [("resource", .text c.resource.word), ("requested", .ofFloat c.requested),
    ("granted", .ofFloat c.granted), ("target", .ofOption .ofNat c.target)]

def Reason.word : Reason → String
  | conditionsNotMet => "conditions_not_met"
  | scheduled => "scheduled"
  | participantGone => "participant_gone"

namespace Report

def toMembers (r : Report Float) : List (String × Json) :=
  [("success", .bool r.success), ("reason", .ofOption (fun x => .text x.word) r.reason),
   ("effectId", .ofOption .text r.effectId),
   ("affectedEntities", .ofList .ofNat r.affected.toList),
   ("entitiesSpawned", .ofNat r.spawnCount),
   ("spawnedEntities", .ofList .ofNat r.spawned.toList), ("damageDealt", .ofFloat r.damageDealt),
   ("healingDone", .ofFloat r.healingDone), ("chainCount", .ofNat r.chainCount.toNat),
   ("operationsExecuted", .ofNat r.operations.toNat),
   ("statusesApplied", .ofList AppliedStatus.toJson r.statuses.toList),
   ("eventsEmitted", .ofList Event.toJson r.events.toList),
   ("modifications", .ofList Change.toJson r.changes.toList),
   ("clamps", .ofList Clamp.toJson r.clamps.toList),
   ("scheduled", .ofList Request.toJson r.scheduled.toList), ("timing", r.timing.toJson)]

def toJson (r : Report Float) : Json := .record r.toMembers

end Report

end Grimoire
