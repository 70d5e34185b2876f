import Grimoire.Effect.Basic
import Grimoire.Json.Writer
import Grimoire.Target.Document

/-! # Effects in documents

`Effect.ofJson` reads what `Effect.toJson` writes, and more: members in any order, members that nobody
asks for, members left out where there is a default, and a few members under a second name.  An
operation of the effect is held as a whole until its kind is known, one after the other: a flaw in one
comes after the faults of those before it.
-/

namespace Grimoire

open Json Record

namespace Coordinates

def toJson (c : Coordinates Float) : Json := .record [("x", c.x.toJson), ("y", c.y.toJson)]

def ofJson : Json → Except DecodeFault (Coordinates Float) := asRecord ⟨["x", "y"], 2⟩ fun members =>
  mk <$> required members "x" Expr.ofJson <*> required members "y" Expr.ofJson

end Coordinates

namespace StackCount

def toJson : StackCount Float → Json
  | all => .text "all"
  | count e => e.toJson

/-- Whether a value stands for all stacks: the word, or a record with nothing in it but the word. -/
def isAll : Json → Bool
  | .text "all" => true
  | .record [("all", .null)] => true
  | _ => false

/-- Reads a count of stacks.  A text is a path unless it is `all`, and whatever is wrong with the
expression, it is the shape that does not fit. -/
def ofJson (j : Json) : Except DecodeFault (StackCount Float) :=
  if isAll j then .ok all
  else match Expr.ofJson j with
    | .ok e => .ok (count e)
    | .error _ => .error .shape

end StackCount

namespace Timing

def toJson : Timing → Json
  | immediate => .record [("type", .text "immediate")]
  | delayed ticks => .record [("type", .text "delayed"), ("ticks", .ofNat ticks)]
  | periodic interval duration =>
    .record [("type", .text "periodic"), ("interval", .ofNat interval),
      ("duration", .ofNat duration)]

def kinds : List (Kind Json Timing) :=
  [⟨["immediate"], ⟨[], 0⟩, fun _ => .found immediate⟩,
   ⟨["delayed"], ⟨["ticks"], 1⟩, fun members =>
     delayed <$> required members "ticks" (asNat maxTick)⟩,
   ⟨["periodic", "over_time"], ⟨["interval", "duration"], 2⟩, fun members =>
     periodic <$> required members "interval" (asNat maxTick)
       <*> required members "duration" (asNat maxTick)⟩]

def ofJson (naming : Naming) : Json → Except DecodeFault Timing := Kind.ofJson naming kinds "type"

end Timing

namespace Action

def toMembers : Action Float → List (String × Json)
  | dealDamage damageType amount => [("damageType", .text damageType), ("amount", amount.toJson)]
  | heal amount => [("amount", amount.toJson)]
  | applyStatus status duration count =>
    [("status", .text status), ("duration", .ofOption Expr.toJson duration),
     ("stacks", count.toJson)]
  | removeStatus status count => [("status", .text status), ("stacks", count.toJson)]
  | modifyStat stat amount duration =>
    [("stat", .text stat), ("amount", amount.toJson),
     ("duration", .ofOption Expr.toJson duration)]
  | setStat stat value => [("stat", .text stat), ("value", value.toJson)]
  | teleport destination => [("destination", destination.toJson)]
  | push direction distance =>
    [("direction", .ofOption Coordinates.toJson direction), ("distance", distance.toJson)]
  | pull toward distance =>
    [("toward", .ofOption Coordinates.toJson toward), ("distance", distance.toJson)]
  | spawnEntity entityType count place =>
    [("entityType", .text entityType), ("count", count.toJson),
     ("at", .ofOption Coordinates.toJson place)]
  | spawnItem itemId count place =>
    [("itemId", .text itemId), ("count", count.toJson),
     ("at", .ofOption Coordinates.toJson place)]
  | transformEntity toType duration =>
    [("toType", .text toType), ("duration", .ofOption Expr.toJson duration)]
  | transformMaterial source result => [("from", .text source), ("to", .text result)]
  | emitEvent eventType payload =>
    [("eventType", .text eventType), ("payload", ofTable Expr.toJson payload)]

def toJson (a : Action Float) : Json := .record (("op", .text a.name) :: a.toMembers)

def expression (members : List (String × Json)) (name : String) : Placed (Expr Float) :=
  required members name Expr.ofJson

def expression? (members : List (String × Json)) (name : String) :
    Placed (Option (Expr Float)) :=
  optional members name (asOption Expr.ofJson) none

def expressionOrOne (members : List (String × Json)) (name : String) : Placed (Expr Float) :=
  optional members name Expr.ofJson (.number (Scalar.ofNat 1))

def coordinates? (members : List (String × Json)) (name : String) :
    Placed (Option (Coordinates Float)) :=
  optional members name (asOption Coordinates.ofJson) none

def kinds : List (Kind Json (Action Float)) :=
  [⟨["deal_damage"], ⟨["damageType", "amount"], 2⟩, fun members =>
     dealDamage <$> required members "damageType" asText <*> expression members "amount"⟩,
   ⟨["heal"], ⟨["amount"], 1⟩, fun members => heal <$> expression members "amount"⟩,
   ⟨["apply_status"], ⟨["status", "duration", "stacks"], 1⟩, fun members =>
     applyStatus <$> required members "status" asText <*> expression? members "duration"
       <*> expressionOrOne members "stacks"⟩,
   ⟨["remove_status"], ⟨["status", "stacks"], 1⟩, fun members =>
     removeStatus <$> required members "status" asText
       <*> optional members "stacks" StackCount.ofJson .all⟩,
   ⟨["modify_stat"], ⟨["stat", "amount", "duration"], 2⟩, fun members =>
     modifyStat <$> required members "stat" asText <*> expression members "amount"
       <*> expression? members "duration"⟩,
   ⟨["set_stat"], ⟨["stat", "value"], 2⟩, fun members =>
     setStat <$> required members "stat" asText <*> expression members "value"⟩,
   ⟨["teleport"], ⟨["destination"], 1⟩, fun members =>
     teleport <$> member members ["destination", "location"] Coordinates.ofJson
       (.fault members.length .shape)⟩,
   ⟨["push"], ⟨["direction", "distance"], 2⟩, fun members =>
     push <$> coordinates? members "direction" <*> expression members "distance"⟩,
   ⟨["pull"], ⟨["toward", "distance"], 2⟩, fun members =>
     pull <$> coordinates? members "toward" <*> expression members "distance"⟩,
   ⟨["spawn_entity"], ⟨["entityType", "count", "at"], 1⟩, fun members =>
     spawnEntity <$> required members "entityType" asText <*> expressionOrOne members "count"
       <*> coordinates? members "at"⟩,
   ⟨["spawn_item"], ⟨["itemId", "count", "at"], 1⟩, fun members =>
     spawnItem <$> required members "itemId" asText <*> expressionOrOne members "count"
       <*> coordinates? members "at"⟩,
   ⟨["transform_entity"], ⟨["toType", "duration"], 1⟩, fun members =>
     transformEntity <$> required members "toType" asText <*> expression? members "duration"⟩,
   ⟨["transform_material"], ⟨["from", "to"], 2⟩, fun members =>
     transformMaterial <$> required members "from" asText <*> required members "to" asText⟩,
   ⟨["emit_event"], ⟨["eventType", "payload"], 1⟩, fun members =>
     emitEvent <$> required members "eventType" asText
       <*> optional members "payload" (asTable Expr.ofJson) ∅⟩]

end Action

namespace Operation

/-! ## Writing -/

mutual

def toJson : Operation Float → Json
  | act action => action.toJson
  | chain effectId newTarget =>
    .record [("op", .text "chain_effect"), ("effectId", .text effectId),
      ("newTarget", newTarget.toJson)]
  | trigger effectId => .record [("op", .text "trigger_effect"), ("effectId", .text effectId)]
  | conditional condition accepted refused =>
    .record [("op", .text "conditional"), ("condition", condition.toJson),
      ("then", .list (toJsonAll accepted)),
      ("else", match refused with
        | none => .null
        | some ops => .list (toJsonAll ops))]
  | iterate times body =>
    .record [("op", .text "repeat"), ("times", times.toJson),
      ("operations", .list (toJsonAll body))]
  | delay ticks body =>
    .record [("op", .text "delay"), ("ticks", ticks.toJson), ("then", .list (toJsonAll body))]

def toJsonAll : List (Operation Float) → List Json
  | [] => []
  | op :: ops => op.toJson :: toJsonAll ops

end

/-! ## Reading -/

/-- A member of an operation, with what it is when read as operations. -/
structure Part where
  json : Json
  operations : Except DecodeFault (List (Operation Float))

namespace Part

def expression (part : Part) : Except DecodeFault (Expr Float) := Expr.ofJson part.json

def operations? (part : Part) : Except DecodeFault (Option (List (Operation Float))) :=
  match part.json with
  | .null => .ok none
  | _ => part.operations.map some

end Part

def ofAction (kind : Kind Json (Action Float)) : Kind Part (Operation Float) where
  names := kind.names
  columns := kind.columns
  read parts := act <$> kind.read (parts.map fun (name, part) => (name, part.json))

def kinds : List (Kind Part (Operation Float)) :=
  Action.kinds.map ofAction ++
  [⟨["chain_effect"], ⟨["effectId", "newTarget"], 2⟩, fun parts =>
     chain <$> required parts "effectId" (fun part => part.json.asText)
       <*> required parts "newTarget" (fun part => Selector.ofJson part.json)⟩,
   ⟨["trigger_effect"], ⟨["effectId"], 1⟩, fun parts =>
     trigger <$> required parts "effectId" (fun part => part.json.asText)⟩,
   ⟨["conditional"], ⟨["condition", "then", "else"], 2⟩, fun parts =>
     conditional <$> required parts "condition" Part.expression
       <*> required parts "then" Part.operations <*> optional parts "else" Part.operations? none⟩,
   ⟨["repeat"], ⟨["times", "operations"], 2⟩, fun parts =>
     iterate <$> required parts "times" Part.expression
       <*> required parts "operations" Part.operations⟩,
   ⟨["delay"], ⟨["ticks", "then"], 2⟩, fun parts =>
     delay <$> required parts "ticks" Part.expression
       <*> required parts "then" Part.operations⟩]

mutual

/-- Reads an operation; the operations in it may say their kinds by place. -/
def ofJson : Json → Naming → Except DecodeFault (Operation Float)
  | .record members, naming => Kind.ofMembers naming kinds "op" Part.json (ofMembers members)
  | .list values, naming => Kind.ofValues naming kinds Part.json (ofValues values)
  | .null, _ | .bool _, _ | .int _, _ | .float _, _ | .text _, _ | .flaw _, _ => .error .shape

def ofList : Json → Except DecodeFault (List (Operation Float))
  | .list items => ofItems items
  | .null | .bool _ | .int _ | .float _ | .text _ | .record _ | .flaw _ => .error .shape

def ofItems : List Json → Except DecodeFault (List (Operation Float))
  | [] => .ok []
  | j :: js => do
    let op ← ofJson j .nameOrPlace
    let ops ← ofItems js
    pure (op :: ops)

def ofMembers : List (String × Json) → List (String × Part)
  | [] => []
  | (name, j) :: rest => (name, ⟨j, ofList j⟩) :: ofMembers rest

def ofValues : List Json → List Part
  | [] => []
  | j :: rest => ⟨j, ofList j⟩ :: ofValues rest

end

/-- Reads an operation that is not part of what is held as a whole. -/
def ofNamed : Json → Except DecodeFault (Operation Float) := asWhole fun j => ofJson j .name

end Operation

namespace Effect

def toJson (e : Effect Float) : Json :=
  .record
    [("id", .ofOption .text e.id), ("name", .ofOption .text e.name),
     ("description", .ofOption .text e.description), ("target", e.target.toJson),
     ("operations", .list (Operation.toJsonAll e.operations)), ("timing", e.timing.toJson),
     ("conditions", .ofList Expr.toJson e.conditions)]

def columns : Columns where
  names := ["id", "name", "description", "target", "operations", "timing", "conditions"]
  least := 5

/-- Reads an effect from the members of a record, with readers for its operations and its timing. -/
def ofMembers (operations : Json → Except DecodeFault (List (Operation Float)))
    (timing : Json → Except DecodeFault Timing) (members : List (String × Json)) :
    Placed (Effect Float) :=
  mk <$> optional members "id" (asOption asText) none
    <*> optional members "name" (asOption asText) none
    <*> optional members "description" (asOption asText) none
    <*> required members "target" Selector.ofJson
    <*> required members "operations" operations
    <*> optional members "timing" timing .immediate
    <*> optional members "conditions" (asList Expr.ofJson) []

def ofJson : Json → Except DecodeFault (Effect Float) :=
  asRecord columns (ofMembers (asList Operation.ofNamed) (Timing.ofJson .name))

def ofHeld : Json → Except DecodeFault (Effect Float) :=
  asRecord columns (ofMembers Operation.ofList (Timing.ofJson .nameOrPlace))

def read : String → Except Fault (Effect Float) := readAs "effect" ofJson

def readList : String → Except Fault (List (Effect Float)) := readAs "effect list" (asList ofJson)

def write (e : Effect Float) : String := e.toJson.compact

end Effect

end Grimoire
