import Grimoire.Expression.Eval
import Grimoire.Target.Selector

/-! # Resolving selectors

`Selector.resolve` lists the entities that a selector chooses.  The shape gives the candidates: in the
order of the world, or by distance from the origin, entities at one distance in the order of the
world.  Each candidate is then filtered and left out or not, and the first ones are kept.

Edges count as inside, with a little slack for angles and strips.  An area has its origin in it; cones
and strips do not, but they have others that stand in the same place.  Around an origin that is
nowhere there is nothing.
-/

namespace Grimoire

structure Aim where
  caster : EntityId
  /-- What shapes are measured from. -/
  origin : EntityId
  /-- The target of `single`. -/
  designated : Option EntityId
  /-- The entities that were already operated on. -/
  previous : Std.ExtTreeSet EntityId compare

variable {α : Type} [Scalar α]

/-! ## Candidates -/

namespace Shape

def slack : α := Scalar.ratio 1 (tenTo 9)

def half (x : α) : α := x / Scalar.ofNat 2

/-- The angle in degrees between a vector of known length and a unit vector. -/
def angleTo (unit offset : Position α) (length : α) : α :=
  Scalar.toDegrees (Scalar.arcCos
    (Quantity.confine (Scalar.ofInt (-1)) (Scalar.ofNat 1) (offset.dot unit / length)))

/-- Whether a cone has something in it that is `offset` away from its origin. -/
def coneHas (angle length : α) (heading offset : Position α) (distance : α) : Bool :=
  if length < distance then false
  else if distance == 0 then true
  else angleTo heading offset distance ≤ half angle + slack

/-- Whether a strip has something in it that is `offset` away from its origin. -/
def stripHas (length width : α) (heading offset : Position α) : Bool :=
  let along := offset.dot heading
  decide (-slack ≤ along) && decide (along ≤ length + slack) &&
    decide (Scalar.abs (offset.cross heading) ≤ half width + slack)

/-- The positioned entities that pass a test of their offset and distance from the origin, the nearest
first.  `others` leaves the origin itself out. -/
def byDistance (w : World α) (origin : EntityId) (others : Bool)
    (inside : Position α → α → Bool) : List EntityId :=
  match w.get? origin .position with
  | none => []
  | some center =>
    let hits := w.ids.filterMap fun id =>
      if others && id == origin then none
      else match w.get? id .position with
        | none => none
        | some p =>
          let offset := p - center
          let distance := offset.length
          if inside offset distance then some (distance, id) else none
    (hits.mergeSort fun a b => decide (a.1 ≤ b.1)).map (·.2)

def headingOf (w : World α) (id : EntityId) : Position α :=
  .ofDegrees (((w.entity? id).map (·.heading)).getD 0)

def candidates (s : Shape α) (w : World α) (aim : Aim) (lineWidth : α) : List EntityId :=
  match s with
  | self => [aim.origin]
  | single => aim.designated.toList
  | all => w.ids
  | area radius => byDistance w aim.origin false fun _ distance => distance ≤ radius
  | cone angle length =>
    byDistance w aim.origin true (coneHas angle length (headingOf w aim.origin))
  | line length width =>
    let heading := headingOf w aim.origin
    byDistance w aim.origin true fun offset _ =>
      stripHas length (width.getD lineWidth) heading offset

end Shape

/-! ## Choosing -/

namespace Filter

def admits (f : Filter α) (e : Entity α) : Bool :=
  (f.entityTypes.isEmpty || f.entityTypes.contains e.typeName) &&
    (f.factions.isEmpty || ((e.get? .faction).map f.factions.contains).getD false) &&
    f.components.all e.hasComponent

def passes (f : Filter α) (w : World α) (caster id : EntityId) (e : Entity α) : Draw Bool :=
  if f.admits e then
    match f.predicate with
    | none => pure true
    | some p => p.evalBool ⟨w, caster, some id⟩
  else pure false

end Filter

namespace Selector

def excludes (s : Selector α) (aim : Aim) (id : EntityId) : Bool :=
  (s.excludeSelf && (id == aim.caster || id == aim.origin)) ||
    (s.excludePrevious && aim.previous.contains id)

def admits (s : Selector α) (w : World α) (aim : Aim) (id : EntityId) : Draw Bool :=
  match w.entity? id with
  | none => pure false
  | some e => do
    let passes ← match s.filter with
      | none => pure true
      | some f => f.passes w aim.caster id e
    pure (passes && !s.excludes aim id)

/-- The candidates that are chosen, if there is room.  Every candidate is asked. -/
def choose (s : Selector α) (w : World α) (aim : Aim) : List EntityId → Draw (List EntityId)
  | [] => pure []
  | id :: ids => do
    let chosen ← s.admits w aim id
    let others ← choose s w aim ids
    pure (if chosen then id :: others else others)

def limit (s : Selector α) (ids : List EntityId) : List EntityId :=
  match s.maxTargets with
  | none => ids
  | some most => ids.take most

def resolve (s : Selector α) (w : World α) (aim : Aim) (lineWidth : α) : Draw (List EntityId) := do
  match s.shape.check with
  | .error fault => throw fault
  | .ok _ =>
    let chosen ← s.choose w aim (s.shape.candidates w aim lineWidth)
    pure (s.limit chosen)

end Selector

end Grimoire
