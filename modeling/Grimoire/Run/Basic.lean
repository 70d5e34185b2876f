import Grimoire.Effect.Spellbook
import Grimoire.Expression.Eval
import Grimoire.Report.Basic
import Grimoire.Settings.Basic
import Grimoire.Target.Resolve

/-! # Running

A call changes four things: the world, the random stream, the counters of the governor and the report.
A step of a call is a `Run`; a step that fails leaves them as they were when it failed, and nothing is
ever taken back.  `Cast` is what stays fixed during a call.
-/

namespace Grimoire

structure Execution (α : Type) where
  world : World α
  stream : Stream
  governor : Governor α
  report : Report α

structure Cast (α : Type) where
  settings : Settings α
  book : Spellbook α
  caster : EntityId
  tick : Nat
  clock : Clock := .still

abbrev Run (α β : Type) := EStateM Fault (Execution α) β

namespace Run

variable {α β : Type}

/-! ## Steps -/

def check (c : Except Fault β) : Run α β :=
  match c with
  | .ok x => pure x
  | .error fault => throw fault

def govern (step : Governed α β) : Run α β := fun s =>
  match step s.governor with
  | .ok x g => .ok x { s with governor := g }
  | .error fault g => .error fault { s with governor := g }

def draw (d : Draw β) : Run α β := fun s =>
  match d s.stream with
  | .ok x stream => .ok x { s with stream := stream }
  | .error fault stream => .error fault { s with stream := stream }

def note (f : Report α → Report α) : Run α Unit :=
  modify fun s => { s with report := f s.report }

def andThen (body : Run α β) (leave : Governor α → Governor α) : Run α β := fun s =>
  match body s with
  | .ok x s => .ok x { s with governor := leave s.governor }
  | .error fault s => .error fault { s with governor := leave s.governor }

theorem andThen_ok {body : Run α β} {leave : Governor α → Governor α} {s s' : Execution α} {x : β}
    (h : body s = .ok x s') :
    body.andThen leave s = .ok x { s' with governor := leave s'.governor } := by
  simp [andThen, h]

theorem andThen_error {body : Run α β} {leave : Governor α → Governor α} {s s' : Execution α}
    {fault : Fault} (h : body s = .error fault s') :
    body.andThen leave s = .error fault { s' with governor := leave s'.governor } := by
  simp [andThen, h]

def times : Nat → Run α Unit → Run α Unit
  | 0, _ => pure ()
  | n + 1, step => do
    step
    times n step

def forEach (step : EntityId → Run α Unit) : List EntityId → Run α Unit
  | [] => pure ()
  | id :: ids => do
    step id
    forEach step ids

/-! ## Entities -/

/-- Runs a step on an entity; without the entity it does nothing. -/
def onEntity (id : EntityId) (step : Entity α → Run α Unit) : Run α Unit := do
  match (← get).world.entity? id with
  | none => pure ()
  | some e => step e

/-- Runs a step on what a slot of an entity holds; if it holds nothing, it does nothing. -/
def onSlot (id : EntityId) (slot : Slot α β) (step : Entity α → β → Run α Unit) : Run α Unit :=
  onEntity id fun e => match e.get? slot with
    | none => pure ()
    | some x => step e x

/-- Replaces an entity and writes into the report, both at once. -/
def commit (id : EntityId) (e : Entity α) (f : Report α → Report α) : Run α Unit :=
  modify fun s => { s with world := s.world.place id e, report := f s.report }

end Run

namespace Report

variable {α : Type}

def change (c : Change α) (r : Report α) : Report α := { r with changes := r.changes.push c }

def clamp (c : Clamp α) (r : Report α) : Report α := { r with clamps := r.clamps.push c }

def status (s : AppliedStatus) (r : Report α) : Report α :=
  { r with statuses := r.statuses.push s }

def schedule (q : Request α) (r : Report α) : Report α :=
  { r with scheduled := r.scheduled.push q }

end Report

end Grimoire
