import Grimoire.Effect.Check
import Grimoire.Run.Creation
import Grimoire.Run.Motion
import Grimoire.Run.Vitality

/-! # Operations

How operations are run.  Every operation passes the governor before it does anything.  Chains and
triggers run the operations of registered effects, which may hold chains and triggers again; but an
effect that is being run is never entered, so bodies can be open within each other only as deep as
there are effects in the spellbook.  `Cast.reentry` counts the levels that are left.
-/

namespace Grimoire

/-- A body that is open while its operations are run. -/
inductive Body where
  /-- The body of a conditional or of a repetition. -/
  | nested
  | chain (effectId : String)
  | trigger (effectId : String)
  deriving DecidableEq, Repr

def Body.leave {α : Type} (b : Body) (g : Governor α) : Governor α :=
  match b with
  | nested => g.exitNested
  | chain effectId => g.exitChain effectId
  | trigger effectId => g.exitTrigger effectId

/-- How chains and triggers are run on a target. -/
structure Reentry (α : Type) where
  chain : EntityId → String → Selector α → Run α Unit
  trigger : EntityId → String → Run α Unit

namespace Cast

variable {α : Type} [Scalar α]

/-! ## Targets and conditions -/

/-- Whether all conditions hold; after the first that does not, none is asked. -/
def conditionsHold (c : Cast α) (target : Option EntityId) : List (Expr α) → Run α Bool
  | [] => pure true
  | e :: es => do
    let holds ← Run.draw (e.evalBool ⟨(← get).world, c.caster, target⟩)
    if holds then c.conditionsHold target es else pure false

def resolve (c : Cast α) (s : Selector α) (origin : EntityId) (designated : Option EntityId) :
    Run α (List EntityId) := do
  let state ← get
  let aim : Aim := ⟨c.caster, origin, designated, state.governor.affected⟩
  Run.draw (s.resolve state.world aim c.settings.lineWidth)

/-- Counts a target among the entities that operations are run on. -/
def enroll (c : Cast α) (target : EntityId) : Run α Unit := do
  let isNew ← Run.govern (Governor.enroll c.settings.limits target)
  if isNew then Run.note fun r => { r with affected := r.affected.push target }

/-! ## Single operations -/

def permit (c : Cast α) : Run α Unit := do
  Run.govern (Governor.permitOperation c.settings.limits c.clock)
  Run.note fun r => { r with operations := r.operations + 1 }

def perform (c : Cast α) (target : EntityId) : Action α → Run α Unit
  | .dealDamage damageType amount => c.dealDamage target damageType amount
  | .heal amount => c.heal target amount
  | .applyStatus status duration count => c.applyStatus target status duration count
  | .removeStatus status count => c.removeStatus target status count
  | .modifyStat stat amount duration => c.modifyStat target stat amount duration
  | .setStat stat value => c.setStat target stat value
  | .teleport destination => c.teleport target destination
  | .push direction distance => c.push target direction distance
  | .pull toward distance => c.pull target toward distance
  | .spawnEntity entityType count place => c.spawnEntity target entityType count place
  | .spawnItem itemId count place => c.spawnItem target itemId count place
  | .transformEntity toType duration => c.transformEntity target toType duration
  | .transformMaterial source result => c.transformMaterial target source result
  | .emitEvent eventType payload => c.emitEvent target eventType payload

def delay (c : Cast α) (target : EntityId) (ticks : Expr α) (body : List (Operation α)) :
    Run α Unit := do
  let ticks ← c.evalCount target "delay.ticks" ticks
  Run.note (Report.schedule
    { caster := c.caster
      target := some target
      dueTick := c.tickAfter ticks
      work := .operations target body })

/-! ## Bodies -/

def enter (c : Cast α) : Body → Run α Unit
  | .nested => Run.govern (Governor.enterNested c.settings.limits)
  | .chain effectId => do
    Run.govern (Governor.enterChain c.settings.limits effectId)
    Run.note fun r => { r with chainCount := r.chainCount + 1 }
  | .trigger effectId => Run.govern (Governor.enterTrigger c.settings.limits effectId)

def within (c : Cast α) (b : Body) (inner : Run α Unit) : Run α Unit := do
  c.enter b
  inner.andThen b.leave

/-! ## Lists of operations -/

mutual

def runOperation (c : Cast α) (re : Reentry α) (target : EntityId) (op : Operation α) :
    Run α Unit := do
  c.permit
  match op with
  | .act action => c.perform target action
  | .chain effectId newTarget => re.chain target effectId newTarget
  | .trigger effectId => re.trigger target effectId
  | .conditional condition accepted refused => do
    let met ← c.evalBool target condition
    if met then c.within .nested (runOperations c re target accepted)
    else match refused with
      | none => pure ()
      | some ops => c.within .nested (runOperations c re target ops)
  | .iterate times body => do
    let count ← c.evalCount target "repeat.times" times
    if count = 0 then pure ()
    else c.within .nested (Run.times count (runOperations c re target body))
  | .delay ticks body => c.delay target ticks body

def runOperations (c : Cast α) (re : Reentry α) (target : EntityId) :
    List (Operation α) → Run α Unit
  | [] => pure ()
  | op :: ops => do
    runOperation c re target op
    runOperations c re target ops

end

def runOnTargets (c : Cast α) (re : Reentry α) (ops : List (Operation α)) :
    List EntityId → Run α Unit :=
  Run.forEach fun target => do
    c.enroll target
    c.runOperations re target ops

/-! ## Re-entry -/

/-- Runs the operations of a registered effect on the targets that a chain chooses. -/
def chainBody (c : Cast α) (re : Reentry α) (target : EntityId) (e : Effect α)
    (newTarget : Selector α) : Run α Unit := do
  Run.check (e.check c.settings.vocabulary)
  let met ← c.conditionsHold (some target) e.conditions
  if met then
    let targets ← c.resolve newTarget target (some target)
    c.runOnTargets re e.operations targets

/-- Runs the operations of a registered effect on the target of a trigger. -/
def triggerBody (c : Cast α) (re : Reentry α) (target : EntityId) (e : Effect α) :
    Run α Unit := do
  Run.check (e.check c.settings.vocabulary)
  let met ← c.conditionsHold (some target) e.conditions
  if met then c.runOperations re target e.operations

def chain (c : Cast α) (re : Reentry α) (target : EntityId) (effectId : String)
    (newTarget : Selector α) : Run α Unit := do
  let e ← Run.check (c.book.require effectId)
  c.within (.chain effectId) (c.chainBody re target e newTarget)

def trigger (c : Cast α) (re : Reentry α) (target : EntityId) (effectId : String) :
    Run α Unit := do
  let e ← Run.check (c.book.require effectId)
  c.within (.trigger effectId) (c.triggerBody re target e)

/-- How chains and triggers are run when so many effects may still be entered.  With none left, every
registered effect is being run, and entering one again is refused. -/
def reentry (c : Cast α) : Nat → Reentry α
  | 0 =>
    { chain := fun _ effectId _ => do
        let _ ← Run.check (c.book.require effectId)
        throw (.chainLimit effectId .cycle)
      trigger := fun _ effectId => do
        let _ ← Run.check (c.book.require effectId)
        throw (.chainLimit effectId .cycle) }
  | more + 1 =>
    { chain := c.chain (c.reentry more)
      trigger := c.trigger (c.reentry more) }

def outermost (c : Cast α) : Reentry α := c.reentry c.book.size

end Cast

end Grimoire
