import Grimoire.Json.Record
import Grimoire.Settings.Basic

/-! # Settings in documents

Every member may be left out, and in a list every member at its end.  Names are written in the order of
the characters.
-/

namespace Grimoire

open Json Record

namespace Limits

def toJson (l : Limits Float) : Json :=
  .record
    [("maxOperations", .ofOption .ofNat l.operations), ("maxDepth", .ofOption .ofNat l.depth),
     ("maxChainDepth", .ofOption .ofNat l.chainDepth),
     ("maxEntitiesAffected", .ofOption .ofNat l.entities),
     ("maxDamagePerEffect", .ofOption .ofFloat l.damage),
     ("maxSpawnsPerEffect", .ofOption .ofNat l.spawns), ("timeoutMs", .ofOption .ofNat l.timeout)]

def readCount (members : List (String × Json)) (name : String) : Placed (Option Nat) :=
  optional members name (asOption (asNat maxCount)) none

def columns : Columns where
  names := ["maxOperations", "maxDepth", "maxChainDepth", "maxEntitiesAffected",
    "maxDamagePerEffect", "maxSpawnsPerEffect", "timeoutMs"]
  least := 0

def ofJson : Json → Except DecodeFault (Limits Float) := asRecord columns fun members =>
  mk <$> readCount members "maxOperations" <*> readCount members "maxDepth"
    <*> readCount members "maxChainDepth" <*> readCount members "maxEntitiesAffected"
    <*> optional members "maxDamagePerEffect" (asOption asFloat) none
    <*> readCount members "maxSpawnsPerEffect"
    <*> optional members "timeoutMs" (asOption (asNat maxTick)) none

end Limits

namespace Vocabulary

def writeNames (names : NameSet) : Json := .ofList .text names.toList

def toJson (v : Vocabulary) : Json :=
  .record
    [("statuses", writeNames v.statuses), ("entityTypes", writeNames v.entityTypes),
     ("items", writeNames v.items), ("materials", writeNames v.materials),
     ("damageTypes", writeNames v.damageTypes)]

def readNames (j : Json) : Except DecodeFault NameSet := (asList asText j).map names

/-- Reads a vocabulary; a set that is left out is the standard one. -/
def ofJson : Json → Except DecodeFault Vocabulary :=
  asRecord ⟨["statuses", "entityTypes", "items", "materials", "damageTypes"], 0⟩ fun members =>
    mk <$> optional members "statuses" readNames standard.statuses
      <*> optional members "entityTypes" readNames standard.entityTypes
      <*> optional members "items" readNames standard.items
      <*> optional members "materials" readNames standard.materials
      <*> optional members "damageTypes" readNames standard.damageTypes

end Vocabulary

namespace Settings

def toJson (s : Settings Float) : Json :=
  .record
    [("limits", s.limits.toJson), ("registries", s.vocabulary.toJson),
     ("lineWidth", .ofFloat s.lineWidth), ("rngSeed", .ofNat s.seed.toNat)]

def readSeed (j : Json) : Except DecodeFault UInt64 := (asNat maxTick j).map Nat.toUInt64

/-- Reads settings; a part that is left out is the standard one. -/
def ofJson : Json → Except DecodeFault (Settings Float) :=
  asRecord ⟨["limits", "registries", "lineWidth", "rngSeed"], 0⟩ fun members =>
    mk <$> optional members "limits" Limits.ofJson .unlimited
      <*> optional members "registries" Vocabulary.ofJson .standard
      <*> optional members "lineWidth" asFloat standard.lineWidth
      <*> optional members "rngSeed" readSeed (standard (α := Float)).seed

def read : String → Except Fault (Settings Float) := readAs "interpreter config" ofJson

end Settings

end Grimoire
