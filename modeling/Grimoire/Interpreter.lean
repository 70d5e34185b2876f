import Grimoire.Run.Operations

/-! # The interpreter

An interpreter is settings and a spellbook.  `Interpreter.execute` runs an effect and
`Interpreter.runRequest` runs what was asked for earlier; both answer how the call ended and the world
after it.  Every call has counters, a random stream and a report of its own.

An effect is checked, then its caster has to exist, then its conditions have to hold.  An effect that
is delayed or periodic only leads to a request; otherwise its targets are chosen and its operations
run on each of them.
-/

namespace Grimoire

structure Interpreter (α : Type) where
  settings : Settings α
  book : Spellbook α := {}

structure Context where
  caster : EntityId
  target : Option EntityId := none
  /-- A seed for this call in place of the one of the settings. -/
  seed : Option UInt64 := none
  deriving DecidableEq, Repr

namespace Cast

variable {α : Type} [Scalar α]

/-- Chooses the targets of an effect and runs its operations on them. -/
def runEffect (c : Cast α) (e : Effect α) (designated : Option EntityId) : Run α Unit := do
  let targets ← c.resolve e.target c.caster designated
  c.runOnTargets c.outermost e.operations targets

def begin (e : Effect α) : Run α Unit :=
  match e.id with
  | none => pure ()
  | some id => modify fun s => { s with governor := s.governor.begin id }

/-- The request that an effect leads to, if it is not run at once. -/
def request? (c : Cast α) (e : Effect α) (target : Option EntityId) : Option (Request α) :=
  match e.timing with
  | .immediate => none
  | .delayed ticks =>
    some { caster := c.caster, target := target, dueTick := c.tickAfter ticks, work := .effect e }
  | .periodic interval duration =>
    some
      { caster := c.caster
        target := target
        dueTick := c.tickAfter interval
        period := some interval
        lastTick := some (c.tickAfter duration)
        work := .effect e }

def stop (reason : Reason) : Run α Unit := Run.note fun r => { r with reason := some reason }

def runTopLevel (c : Cast α) (e : Effect α) (target : Option EntityId) : Run α Unit := do
  Run.check (e.check c.settings.vocabulary)
  if !(← get).world.has c.caster then throw (.validation (.missingCaster c.caster))
  begin e
  let met ← c.conditionsHold target e.conditions
  if met then
    match c.request? e target with
    | none => c.runEffect e target
    | some q => do
      stop .scheduled
      Run.note (Report.schedule q)
  else stop .conditionsNotMet

/-- Runs what a request is about.  The conditions of an effect are not asked again. -/
def runWork (c : Cast α) (target : Option EntityId) : Work α → Run α Unit
  | .effect e => do
    Run.check (e.check c.settings.vocabulary)
    if (← get).world.has c.caster then
      begin e
      c.runEffect e target
    else stop .participantGone
  | .operations target ops => do
    if (← get).world.has target then c.runOnTargets c.outermost ops [target]
    else stop .participantGone

end Cast

namespace Interpreter

variable {α : Type} [Scalar α]

/-- An interpreter that knows one more effect, which has to pass its static check. -/
def register (i : Interpreter α) (e : Effect α) : Except Fault (Interpreter α) := do
  e.check i.settings.vocabulary
  let book ← i.book.register e
  pure { i with book := book }

def cast (i : Interpreter α) (caster : EntityId) (w : World α) (clock : Clock := .still) : Cast α :=
  ⟨i.settings, i.book, caster, w.tick, clock⟩

def stream (i : Interpreter α) (seed : Option UInt64) (caster : EntityId) (w : World α) : Stream :=
  (Stream.ofSeed (seed.getD i.settings.seed)).derive (toString caster ++ "@" ++ toString w.tick)

def finish (result : EStateM.Result Fault (Execution α) Unit) : Outcome α × World α :=
  match result with
  | .ok _ s => (.ok { s.report with success := true }, s.world)
  | .error fault s => (.error ⟨fault, { s.report with success := false }⟩, s.world)

def execute (i : Interpreter α) (e : Effect α) (context : Context) (w : World α)
    (clock : Clock := .still) : Outcome α × World α :=
  finish ((i.cast context.caster w clock).runTopLevel e context.target
    { world := w
      stream := i.stream context.seed context.caster w
      governor := .start
      report := .start e.id e.timing })

def startReport : Work α → Report α
  | .effect e => .start e.id e.timing
  | .operations .. => .start none .immediate

def runRequest (i : Interpreter α) (q : Request α) (w : World α) (clock : Clock := .still) :
    Outcome α × World α :=
  finish ((i.cast q.caster w clock).runWork q.target q.work
    { world := w
      stream := i.stream none q.caster w
      governor := .start
      report := startReport q.work })

end Interpreter

end Grimoire
