import Grimoire.Interpreter
import Grimoire.Report.Document

/-! # Sessions

A session keeps an interpreter, a world and every request that calls led to, failed calls included.
Requests are never dropped: running what is due runs every request that is due at the tick of the
world.
-/

namespace Grimoire

structure Session (α : Type) where
  interpreter : Interpreter α
  world : World α
  requests : Array (Request α) := #[]

def Outcome.report {α : Type} : Outcome α → Report α
  | .ok r => r
  | .error failure => failure.done

namespace Session

variable {α : Type} [Scalar α]

def after (s : Session α) (result : Outcome α × World α) : Outcome α × Session α :=
  (result.1, { s with
    world := result.2
    requests := s.requests ++ (Outcome.report result.1).scheduled })

def cast (s : Session α) (e : Effect α) (context : Context) : Outcome α × Session α :=
  s.after (s.interpreter.execute e context s.world)

def castRegistered (s : Session α) (id : String) (context : Context) :
    Except Fault (Outcome α × Session α) := do
  let e ← s.interpreter.book.require id
  pure (s.cast e context)

def register (s : Session α) (e : Effect α) : Except Fault (Nat × Session α) := do
  let interpreter ← s.interpreter.register e
  pure (interpreter.book.size, { s with interpreter := interpreter })

def run (s : Session α) (q : Request α) : Outcome α × Session α :=
  s.after (s.interpreter.runRequest q s.world)

def runAll (s : Session α) : List (Request α) → List (Outcome α) × Session α
  | [] => ([], s)
  | q :: qs =>
    let (outcome, s) := s.run q
    let (outcomes, s) := runAll s qs
    (outcome :: outcomes, s)

def due (s : Session α) : List (Request α) :=
  s.requests.toList.filter (·.isDueAt s.world.tick)

def runDue (s : Session α) : List (Outcome α) × Session α := s.runAll s.due

def advance (s : Session α) : Nat → List TickReport × Session α
  | 0 => ([], s)
  | n + 1 =>
    let (report, world) := s.world.advance
    let (reports, s) := advance { s with world := world } n
    (report :: reports, s)

end Session

namespace World

/-- The entities that are written differently in two worlds, as they are in the second one. -/
def differences (before after : World Float) : List (EntityId × Option (Entity Float)) :=
  let written (w : World Float) (id : EntityId) : Option String :=
    (w.entity? id).map fun e => e.toJson.compact
  let changed := after.ids.filter fun id => written before id != written after id
  let gone := before.ids.filter fun id => !after.has id
  (changed ++ gone).map fun id => (id, after.entity? id)

end World

end Grimoire
