import Grimoire.Expression.Basic
import Grimoire.Settings.Vocabulary
import Grimoire.Number.Scalar

/-! # Selectors

A selector says whom an effect is for: a shape around an origin, a filter, how many at most, and who
is left out.  `Selector.check` is the static check.
-/

namespace Grimoire

/-- Which entities a selector is about before any is filtered out. -/
inductive Shape (α : Type) where
  | self
  /-- The designated target, if there is one. -/
  | single
  /-- Everything within a radius of the origin. -/
  | area (radius : α)
  /-- Everything within a length of the origin and within half an angle of its heading. -/
  | cone (angle length : α)
  /-- A strip along the origin's heading. -/
  | line (length : α) (width : Option α)
  | all

/-- What every chosen entity has to pass.  An empty list of types or factions lets every one pass. -/
structure Filter (α : Type) where
  entityTypes : List String := []
  factions : List String := []
  /-- Names under which something has to be kept. -/
  components : List String := []
  /-- An expression that has to hold with the entity as target. -/
  predicate : Option (Expr α) := none

structure Selector (α : Type) where
  shape : Shape α
  filter : Option (Filter α) := none
  maxTargets : Option Nat := none
  /-- Leaves out the caster and the origin. -/
  excludeSelf : Bool := false
  /-- Leaves out entities that were already operated on. -/
  excludePrevious : Bool := false

namespace Shape

variable {α : Type}

def parameters : Shape α → List (String × α)
  | self | single | all => []
  | area radius => [("radius", radius)]
  | cone angle length => [("angle", angle), ("length", length)]
  | line length none => [("length", length)]
  | line length (some width) => [("length", length), ("width", width)]

def isParameter [Scalar α] (x : α) : Bool := Scalar.isFinite x && decide (0 ≤ x)

def check [Scalar α] (s : Shape α) : Except Fault Unit :=
  match s.parameters.find? fun (_, x) => !isParameter x with
  | none => .ok ()
  | some (name, x) => .error (.validation (.shapeParameter name (Scalar.text x)))

end Shape

namespace Filter

def check {α : Type} (f : Filter α) : Except Fault Unit := do
  f.entityTypes.forM (Vocabulary.checkIdentifier "filter entity type")
  f.factions.forM (Vocabulary.checkIdentifier "filter faction")
  f.components.forM (Vocabulary.checkIdentifier "filter component")

end Filter

namespace Selector

/-- Accepts a selector with an acceptable shape and an acceptable filter. -/
def check {α : Type} [Scalar α] (s : Selector α) : Except Fault Unit := do
  s.shape.check
  match s.filter with
  | none => .ok ()
  | some f => f.check

end Selector

end Grimoire
