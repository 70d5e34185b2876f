import Grimoire.Effect.Operation

/-! # Effects

An effect is a selector, operations for every target it chooses, a time to run at and conditions.  An
effect with an id can be registered and then be run by others.
-/

namespace Grimoire

inductive Timing where
  | immediate
  /-- Once, so many ticks after the cast. -/
  | delayed (ticks : Nat)
  /-- Every `interval` ticks until `duration` ticks after the cast. -/
  | periodic (interval duration : Nat)
  deriving DecidableEq, Repr

structure Effect (α : Type) where
  id : Option String := none
  name : Option String := none
  description : Option String := none
  target : Selector α
  operations : List (Operation α)
  timing : Timing := .immediate
  /-- Expressions that all have to hold. -/
  conditions : List (Expr α) := []

end Grimoire
