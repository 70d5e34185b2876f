import Grimoire.Effect.Action

/-! # Operations

An operation is an action, or it decides about further operations: a conditional chooses between two
lists, a repetition runs one again and again, a delay asks for one to be run later, and chains and
triggers run the operations of an effect that was registered.
-/

namespace Grimoire

inductive Operation (α : Type) where
  | act (action : Action α)
  /-- Runs a registered effect on targets that are chosen around this one. -/
  | chain (effectId : String) (newTarget : Selector α)
  /-- Runs a registered effect on the target. -/
  | trigger (effectId : String)
  | conditional (condition : Expr α) (accepted : List (Operation α))
      (refused : Option (List (Operation α)))
  | iterate (times : Expr α) (body : List (Operation α))
  | delay (ticks : Expr α) (body : List (Operation α))

namespace Operation

def name {α : Type} : Operation α → String
  | act action => action.name
  | chain .. => "chain_effect"
  | trigger .. => "trigger_effect"
  | conditional .. => "conditional"
  | iterate .. => "repeat"
  | delay .. => "delay"

end Operation

end Grimoire
