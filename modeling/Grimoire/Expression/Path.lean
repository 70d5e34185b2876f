import Grimoire.Settings.Vocabulary

/-! # Variable paths

A path such as `caster.position.x` names something that an expression may read.  It is resolved once,
when the expression is built, into an `Access`; evaluation never looks anything up by a text other
than a stat or status name that was accepted here.

A path is `tick`, a field of `world`, or `caster` or `target` with a field of that entity.
-/

namespace Grimoire

inductive Root where
  | caster
  | target
  deriving DecidableEq, Repr

inductive EntityField where
  | reference
  | id
  | health
  | maxHealth
  | positionX
  | positionY
  | facing
  | faction
  | typeName
  | stat (name : String)
  | status (name : String)
  deriving DecidableEq, Repr

inductive Access where
  | tick
  | entityCount
  | entity (root : Root) (field : EntityField)
  deriving DecidableEq, Repr

/-- A path as it was written, and what it reads. -/
structure Path where
  raw : String
  access : Access
  deriving DecidableEq, Repr

namespace Path

/-- The parts of a text between dots; a text without dots is one part. -/
def splitDots : List Char → List (List Char)
  | [] => [[]]
  | c :: cs =>
    if c = '.' then [] :: splitDots cs
    else match splitDots cs with
      | [] => [[c]]
      | part :: parts => (c :: part) :: parts

def segments (raw : String) : List String := (splitDots raw.toList).map String.ofList

/-- The field of a stat; the two stats that are not kept in a stat block have fields of their own. -/
def statField (name : String) : Except PathFault EntityField :=
  if knownStats.contains name then
    .ok (if name = "health" then .health else if name = "maxHealth" then .maxHealth else .stat name)
  else .error (.unknownStat name)

/-- The field of an entity that the segments after the root name. -/
def entityField : List String → Except PathFault EntityField
  | [] => .ok .reference
  | ["id"] => .ok .id
  | ["health"] => .ok .health
  | ["maxHealth"] => .ok .maxHealth
  | ["position", "x"] => .ok .positionX
  | ["position", "y"] => .ok .positionY
  | ["facing"] => .ok .facing
  | ["faction"] => .ok .faction
  | ["type"] => .ok .typeName
  | ["status", name] => .ok (.status name)
  | ["stats", name] => statField name
  | [name] => statField name
  | _ => .error .unknownEntityField

def resolve : List String → Except PathFault Access
  | ["tick"] => .ok .tick
  | ["world", "tick"] => .ok .tick
  | ["world", "entityCount"] => .ok .entityCount
  | "world" :: _ => .error .unknownWorldField
  | "caster" :: rest => (entityField rest).map (.entity .caster)
  | "target" :: rest => (entityField rest).map (.entity .target)
  | _ => .error .unknownRoot

/-- Resolves a path.  Fragments are looked for in the whole text, then the segments are counted, then
each has to be an identifier, and only then are they looked up. -/
def parse (raw : String) : Except PathFault Path :=
  match Identifier.fragmentRejection? raw with
  | some r => .error (.rejected r)
  | none =>
    let parts := segments raw
    if maxPathSegments < parts.length then .error .tooManySegments
    else match parts.findSome? Identifier.rejection? with
      | some r => .error (.rejected r)
      | none => (resolve parts).map fun access => ⟨raw, access⟩

theorem raw_of_parse {raw : String} {p : Path} (h : parse raw = .ok p) : p.raw = raw := by
  unfold parse at h
  split at h
  · cases h
  · dsimp only at h
    split at h
    · cases h
    · split at h
      · cases h
      · cases resolved : resolve (segments raw) with
        | error fault => simp [resolved, Except.map] at h
        | ok access =>
          simp only [resolved, Except.map, Except.ok.injEq] at h
          rw [← h]

end Path

end Grimoire
