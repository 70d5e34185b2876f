import Grimoire.Expression.Document
import Grimoire.Json.Kind
import Grimoire.Target.Selector

/-! # Selectors in documents

The members of the shape stand among those of the selector, so every member that is not the
selector's own is held for the shape, and a flaw in it is a fault.  Other faults of the shape count
only when the selector's own members have none.
-/

namespace Grimoire

open Json Record

namespace Shape

def toMembers : Shape Float → List (String × Json)
  | self => [("type", .text "self")]
  | single => [("type", .text "single")]
  | area radius => [("type", .text "area"), ("radius", .ofFloat radius)]
  | cone angle length =>
    [("type", .text "cone"), ("angle", .ofFloat angle), ("length", .ofFloat length)]
  | line length width =>
    [("type", .text "line"), ("length", .ofFloat length), ("width", .ofOption .ofFloat width)]
  | all => [("type", .text "all")]

def kinds : List (Kind Json (Shape Float)) :=
  [⟨["self"], ⟨[], 0⟩, fun _ => .found self⟩,
   ⟨["single"], ⟨[], 0⟩, fun _ => .found single⟩,
   ⟨["area"], ⟨["radius"], 1⟩, fun members => area <$> required members "radius" asFloat⟩,
   ⟨["cone"], ⟨["angle", "length"], 2⟩, fun members =>
     cone <$> required members "angle" asFloat <*> required members "length" asFloat⟩,
   ⟨["line"], ⟨["length", "width"], 1⟩, fun members =>
     line <$> required members "length" asFloat
       <*> optional members "width" (asOption asFloat) none⟩,
   ⟨["all"], ⟨[], 0⟩, fun _ => .found all⟩]

/-- Reads a shape from the members of a selector; a fault is placed after all of them. -/
def ofMembers (members : List (String × Json)) : Placed (Shape Float) :=
  match Kind.ofMembers .nameOrPlace kinds "type" id members with
  | .ok s => .found s
  | .error cause => .fault members.length cause

end Shape

namespace Filter

def toJson (f : Filter Float) : Json :=
  .record
    [("entityTypes", .ofList .text f.entityTypes), ("factions", .ofList .text f.factions),
     ("hasComponents", .ofList .text f.components),
     ("customPredicate", .ofOption Expr.toJson f.predicate)]

def ofJson : Json → Except DecodeFault (Filter Float) :=
  asRecord ⟨["entityTypes", "factions", "hasComponents", "customPredicate"], 0⟩ fun members =>
    mk <$> optional members "entityTypes" (asList asText) []
      <*> optional members "factions" (asList asText) []
      <*> optional members "hasComponents" (asList asText) []
      <*> optional members "customPredicate" (asOption Expr.ofJson) none

end Filter

namespace Selector

def toJson (s : Selector Float) : Json :=
  .record (s.shape.toMembers ++
    [("filter", .ofOption Filter.toJson s.filter), ("maxTargets", .ofOption .ofNat s.maxTargets),
     ("excludeSelf", .bool s.excludeSelf), ("excludePrevious", .bool s.excludePrevious)])

def ownNames : List String := ["filter", "maxTargets", "count", "excludeSelf", "excludePrevious"]

def isFlawed (member : String × Json) : Bool :=
  !ownNames.contains member.1 && !member.2.isFlawless

def ofJson : Json → Except DecodeFault (Selector Float) := asMembers fun members =>
  mk <$> (Shape.ofMembers members <* refuse isFlawed members)
    <*> optional members "filter" (asOption Filter.ofJson) none
    <*> member members ["maxTargets", "count"] (asOption (asNat maxCount)) (.found none)
    <*> optional members "excludeSelf" asBool false
    <*> optional members "excludePrevious" asBool false

def read? (s : String) : Option (Selector Float) := (decode ofJson s).toOption

end Selector

end Grimoire
