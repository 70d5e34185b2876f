import Grimoire.Run.Parameter

/-! # Health, statuses and stats

The actions that change what an entity can take, what it suffers from and what it can do.  A target
that has no health is damaged and healed without any change, but what it would have been is counted.
-/

namespace Grimoire

namespace Cast

variable {α : Type} [Scalar α]

/-! ## Health -/

def changeHealth (target : EntityId) (f : Health α → Health α) : Run α Unit :=
  Run.onSlot target .health fun e h =>
    let changed := f h
    Run.commit target (e.put .health changed)
      (Report.change (.health target h.current changed.current))

def restore (target : EntityId) (amount : α) : Run α Unit := do
  Run.note fun r => { r with healingDone := r.healingDone + amount }
  changeHealth target (·.heal amount)

/-- Counts damage as far as the ceiling allows; the answer is how much that is. -/
def allotDamage (c : Cast α) (target : EntityId) (requested : α) : Run α α := do
  let granted ← Run.govern (Governor.grantDamage c.settings.limits requested)
  if granted < requested then
    Run.note (Report.clamp ⟨.damage, requested, granted, some target⟩)
  Run.note fun r => { r with damageDealt := r.damageDealt + granted }
  pure granted

def wound (c : Cast α) (target : EntityId) (requested : α) : Run α Unit := do
  let granted ← c.allotDamage target requested
  changeHealth target (·.damage granted)

/-- Damages the target, or heals it if the amount is below zero. -/
def dealDamage (c : Cast α) (target : EntityId) (damageType : String) (amount : Expr α) :
    Run α Unit := do
  Run.check (c.settings.vocabulary.checkDamageType damageType)
  let requested ← c.evalNumber target amount
  if requested < 0 then restore target (-requested) else c.wound target requested

def heal (c : Cast α) (target : EntityId) (amount : Expr α) : Run α Unit := do
  let amount ← c.evalNumber target amount
  if amount < 0 then throw (.validation (.negative "heal amount" (Scalar.text amount)))
  else restore target amount

/-! ## Statuses -/

def applyStatus (c : Cast α) (target : EntityId) (status : String) (duration : Option (Expr α))
    (count : Expr α) : Run α Unit := do
  Run.check (c.settings.vocabulary.checkStatus status)
  let count ← c.evalCount target "apply_status.stacks" count
  let expiresAt ← c.expiry target "apply_status.duration" duration
  if count = 0 then pure ()
  else
    Run.onEntity target fun e =>
      let table := e.statusTable.apply status count expiresAt
      Run.commit target (e.put .statuses table)
        (Report.status ⟨target, status, count, table.stackCount status⟩)

def evalStacks (c : Cast α) (target : EntityId) : StackCount α → Run α (Option Nat)
  | .all => pure none
  | .count e => do
    let n ← c.evalNumber target e
    pure (some (if 0 < n then Scalar.toNatUpTo maxCount (Scalar.floor n) else 0))

def removeStatus (c : Cast α) (target : EntityId) (status : String) (count : StackCount α) :
    Run α Unit := do
  Run.check (c.settings.vocabulary.checkStatus status)
  let requested ← c.evalStacks target count
  if requested = some 0 then pure ()
  else
    Run.onSlot target .statuses fun e table =>
      let removed := table.removable status requested
      Run.commit target (e.put .statuses (table.remove status requested)) fun r =>
        if removed = 0 then r else r.change (.statusRemoved target status removed)

/-! ## Stats -/

/-- Sets the pool of the target, which stays between zero and its maximum. -/
def setHealth (target : EntityId) (value : Health α → α) : Run α Unit :=
  Run.onSlot target .health fun e h =>
    match h.setCurrent? (value h) with
    | none => throw .brokenBounds
    | some changed =>
      Run.commit target (e.put .health changed)
        (Report.change (.health target h.current changed.current))

def changeMaximum (target : EntityId) (expiresAt : Option Nat) (f : Health α → Health α) :
    Run α Unit :=
  Run.onSlot target .health fun e h =>
    let changed := f h
    Run.commit target (e.put .health changed)
      (Report.change (.maxHealth target h.max changed.max expiresAt))

/-- Changes the stats of the target; `after` is the effective value that the record ends with. -/
def changeStats (target : EntityId) (stat : String) (expiresAt : Option Nat)
    (f : StatBlock α → StatBlock α) (after : StatBlock α → α) : Run α Unit :=
  Run.onEntity target fun e =>
    let changed := f e.statBlock
    Run.commit target (e.put .stats changed)
      (Report.change (.stat target stat (e.statBlock.effective stat) (after changed) expiresAt))

def modifyStat (c : Cast α) (target : EntityId) (stat : String) (amount : Expr α)
    (duration : Option (Expr α)) : Run α Unit := do
  Run.check (Vocabulary.checkStat stat)
  let amount ← c.evalNumber target amount
  let expiresAt ← c.expiry target "modify_stat.duration" duration
  if stat = "health" then
    if expiresAt.isSome then throw (.validation .timedHealth)
    else setHealth target fun h => h.current + amount
  else if stat = "maxHealth" then
    changeMaximum target expiresAt (·.adjustMax amount expiresAt)
  else
    changeStats target stat expiresAt (·.change stat amount expiresAt) (·.effective stat)

def setStat (c : Cast α) (target : EntityId) (stat : String) (value : Expr α) : Run α Unit := do
  Run.check (Vocabulary.checkStat stat)
  let value ← c.evalNumber target value
  if stat = "health" then setHealth target fun _ => value
  else if stat = "maxHealth" then changeMaximum target none (·.setMax value)
  else changeStats target stat none (·.setBase stat value) fun _ => value

end Cast

end Grimoire
