import Grimoire.Run.Basic

/-! # Parameters

What the expressions of an operation come to when it is run.  `what` says in messages which parameter
it is.
-/

namespace Grimoire

namespace Cast

variable {α : Type} [Scalar α]

def eval (c : Cast α) (target : EntityId) (e : Expr α) : Run α (Value α) := do
  Run.draw (e.eval ⟨(← get).world, c.caster, some target⟩)

def evalNumber (c : Cast α) (target : EntityId) (e : Expr α) : Run α α := do
  Run.draw (e.evalNumber ⟨(← get).world, c.caster, some target⟩)

/-- Whether an expression computes something that counts as true. -/
def evalBool (c : Cast α) (target : EntityId) (e : Expr α) : Run α Bool := do
  Run.draw (e.evalBool ⟨(← get).world, c.caster, some target⟩)

/-- A whole number that is not negative, at most the largest count. -/
def evalCount (c : Cast α) (target : EntityId) (what : String) (e : Expr α) : Run α Nat := do
  let n ← Run.draw (e.evalWhole ⟨(← get).world, c.caster, some target⟩)
  if n < 0 then throw (.validation (.negative what (Scalar.text n)))
  else pure (Scalar.toNatUpTo maxCount n)

/-- The tick that is some ticks after the start of the call, at most the largest tick. -/
def tickAfter (c : Cast α) (ticks : Nat) : Nat := min (c.tick + ticks) maxTick

/-- When something of a duration ends; without a duration, or with none at all, it never does. -/
def expiry (c : Cast α) (target : EntityId) (what : String) :
    Option (Expr α) → Run α (Option Nat)
  | none => pure none
  | some e => do
    let ticks ← c.evalNumber target e
    if ticks < 0 then throw (.validation (.negative what (Scalar.text ticks)))
    else if ticks == 0 then pure none
    else pure (some (c.tickAfter (Scalar.toNatUpTo maxTick (Scalar.ceil ticks))))

def evalPoint (c : Cast α) (target : EntityId) (p : Coordinates α) : Run α (Position α) := do
  let x ← c.evalNumber target p.x
  let y ← c.evalNumber target p.y
  let point : Position α := ⟨x, y⟩
  if point.isFinite then pure point else throw (.invalidPosition (.notFinite point.text))

def checkBounds (operation : String) (p : Position α) : Run α Unit := do
  if (← get).world.bounds.contains p then pure ()
  else throw (.invalidPosition (.outside operation p.text))

def casterPosition (c : Cast α) (use : Anchor) : Run α (Position α) := do
  match (← get).world.get? c.caster .position with
  | none => throw (.invalidPosition (.noAnchor use))
  | some p => pure p

end Cast

end Grimoire
