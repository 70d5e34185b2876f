import Grimoire.Interpreter
import Grimoire.Proofs.Run.Ceilings

/-! # Calls, moment by moment

A call is a sequence of moments.  A moment is the state of the call together with its agenda: what is
left to be done, the innermost first, with every open body closed by an entry of its own.  One step
takes the first entry and puts what it leads to in its place.  After a fault the agenda is only
unwound: what was left is dropped, and open bodies are closed.

The steps have no levels of re-entry and no recursion of their own: a chain looks its effect up and
puts it on the agenda.
-/

namespace Grimoire

variable {α : Type}

/-- Something that is left to be done. -/
inductive Pending (α : Type) where
  /-- An effect, from its conditions on. -/
  | weigh (e : Effect α) (target : Option EntityId)
  /-- An effect, from the choice of its targets on. -/
  | effect (e : Effect α) (designated : Option EntityId)
  | targets (ids : List EntityId) (ops : List (Operation α))
  | operations (target : EntityId) (ops : List (Operation α))
  /-- An operation that has passed the governor. -/
  | dispatch (target : EntityId) (op : Operation α)
  | rounds (target : EntityId) (count : Nat) (ops : List (Operation α))
  | chained (target : EntityId) (e : Effect α) (newTarget : Selector α)
  | triggered (target : EntityId) (e : Effect α)
  /-- A body that is to be opened, and what is to be done in it. -/
  | enter (b : Body) (inner : Pending α)
  | close (b : Body)

namespace Pending

def body? : Pending α → Option Body
  | close b => some b
  | _ => none

/-- What is left of an entry after a fault: open bodies are closed. -/
def unwind (p : Pending α) (s : Execution α) : Execution α :=
  match p with
  | close b => { s with governor := b.leave s.governor }
  | _ => s

variable [Scalar α]

/-- Does the first thing that an entry asks for; the answer is what it leads to. -/
def unfold (c : Cast α) : Pending α → Run α (List (Pending α))
  | weigh e target => do
    let met ← c.conditionsHold target e.conditions
    if met then
      match c.request? e target with
      | none => pure [effect e target]
      | some q => do
        Cast.stop .scheduled
        Run.note (Report.schedule q)
        pure []
    else do
      Cast.stop .conditionsNotMet
      pure []
  | effect e designated => do
    let ids ← c.resolve e.target c.caster designated
    pure [targets ids e.operations]
  | targets [] _ => pure []
  | targets (id :: ids) ops => do
    c.enroll id
    pure [operations id ops, targets ids ops]
  | operations _ [] => pure []
  | operations target (op :: ops) => do
    c.permit
    pure [dispatch target op, operations target ops]
  | dispatch target (.act action) => do
    c.perform target action
    pure []
  | dispatch target (.chain effectId newTarget) => do
    let e ← Run.check (c.book.require effectId)
    pure [enter (.chain effectId) (chained target e newTarget)]
  | dispatch target (.trigger effectId) => do
    let e ← Run.check (c.book.require effectId)
    pure [enter (.trigger effectId) (triggered target e)]
  | dispatch target (.conditional condition accepted refused) => do
    let met ← c.evalBool target condition
    if met then pure [enter .nested (operations target accepted)]
    else match refused with
      | none => pure []
      | some ops => pure [enter .nested (operations target ops)]
  | dispatch target (.iterate times body) => do
    let count ← c.evalCount target "repeat.times" times
    if count = 0 then pure [] else pure [enter .nested (rounds target count body)]
  | dispatch target (.delay ticks body) => do
    c.delay target ticks body
    pure []
  | rounds _ 0 _ => pure []
  | rounds target (n + 1) body => pure [operations target body, rounds target n body]
  | chained target e newTarget => do
    Run.check (e.check c.settings.vocabulary)
    let met ← c.conditionsHold (some target) e.conditions
    if met then do
      let ids ← c.resolve newTarget target (some target)
      pure [targets ids e.operations]
    else pure []
  | triggered target e => do
    Run.check (e.check c.settings.vocabulary)
    let met ← c.conditionsHold (some target) e.conditions
    if met then pure [operations target e.operations] else pure []
  | enter b inner => do
    c.enter b
    pure [inner, close b]
  | close b => do
    modify fun s => { s with governor := b.leave s.governor }
    pure []

end Pending

/-! ## Moments -/

/-- A moment of a call. -/
structure Moment (α : Type) where
  /-- What is left to be done, the innermost first. -/
  agenda : List (Pending α)
  /-- What has ended the call, if something has. -/
  fault : Option Fault
  state : Execution α

namespace Moment

/-- The moment at which a run is over and a list of things is left. -/
def ofResult {β : Type} (rest : List (Pending α)) : EStateM.Result Fault (Execution α) β → Moment α
  | .ok _ s => ⟨rest, none, s⟩
  | .error fault s => ⟨rest, some fault, s⟩

def result (m : Moment α) : EStateM.Result Fault (Execution α) Unit :=
  match m.fault with
  | none => .ok () m.state
  | some fault => .error fault m.state

theorem of_result_ok {m : Moment α} {s : Execution α} (h : m.result = .ok () s) :
    m.fault = none ∧ m.state = s := by
  unfold result at h
  cases fault : m.fault with
  | none =>
      rw [fault] at h
      cases h
      exact ⟨rfl, rfl⟩
  | some fault' =>
      rw [fault] at h
      cases h

/-- The bodies that are open at some agenda, the innermost first. -/
def bodiesOf (agenda : List (Pending α)) : List Body := agenda.filterMap Pending.body?

/-- The effects whose bodies are open at some agenda, the innermost first. -/
def effectsOf (agenda : List (Pending α)) : List String :=
  (bodiesOf agenda).filterMap Body.effect?

def bodies (m : Moment α) : List Body := bodiesOf m.agenda

/-- The effects whose bodies are open, the innermost first. -/
def effects (m : Moment α) : List String := effectsOf m.agenda

def chains (m : Moment α) : List Body := m.bodies.filter Body.isChain

end Moment

namespace Cast

variable [Scalar α]

/-- The moment after a moment; when nothing is left to be done, it stays. -/
def step (c : Cast α) (m : Moment α) : Moment α :=
  match m.agenda, m.fault with
  | [], _ => m
  | p :: rest, none =>
    match p.unfold c m.state with
    | .ok more s => ⟨more ++ rest, none, s⟩
    | .error fault s => ⟨rest, some fault, s⟩
  | p :: rest, some fault => ⟨rest, some fault, p.unwind m.state⟩

def after (c : Cast α) : Nat → Moment α → Moment α
  | 0, m => m
  | n + 1, m => c.step (c.after n m)

end Cast

/-! ## Calls -/

/-- What an interpreter can be called for. -/
inductive Call (α : Type) where
  | execute (e : Effect α) (context : Context)
  | request (q : Request α)

namespace Call

def caster : Call α → EntityId
  | execute _ context => context.caster
  | request q => q.caster

/-- The effect that is on the path before any body is opened. -/
def seeded : Call α → List String
  | execute e _ => e.id.toList
  | request q =>
    match q.work with
    | .effect e => e.id.toList
    | .operations .. => []

def operations : Call α → List (Operation α)
  | execute e _ => e.operations
  | request q =>
    match q.work with
    | .effect e => e.operations
    | .operations _ ops => ops

variable [Scalar α]

/-- Does what comes before all conditions and targets; the answer is what the call is about. -/
def prepare (c : Cast α) : Call α → Run α (List (Pending α))
  | execute e context => do
    Run.check (e.check c.settings.vocabulary)
    if !(← get).world.has c.caster then throw (.validation (.missingCaster c.caster))
    Cast.begin e
    pure [.weigh e context.target]
  | request q =>
    match q.work with
    | .effect e => do
      Run.check (e.check c.settings.vocabulary)
      if (← get).world.has c.caster then do
        Cast.begin e
        pure [.effect e q.target]
      else do
        Cast.stop .participantGone
        pure []
    | .operations target ops => do
      if (← get).world.has target then pure [.targets [target] ops]
      else do
        Cast.stop .participantGone
        pure []

end Call

namespace Interpreter

variable [Scalar α]

def run (i : Interpreter α) (call : Call α) (w : World α) (clock : Clock) : Outcome α × World α :=
  match call with
  | .execute e context => i.execute e context w clock
  | .request q => i.runRequest q w clock

def start (i : Interpreter α) (call : Call α) (w : World α) : Execution α :=
  match call with
  | .execute e context =>
    { world := w
      stream := i.stream context.seed context.caster w
      governor := .start
      report := .start e.id e.timing }
  | .request q =>
    { world := w
      stream := i.stream none q.caster w
      governor := .start
      report := startReport q.work }

def opening (i : Interpreter α) (call : Call α) (w : World α) (clock : Clock) : Moment α :=
  match call.prepare (i.cast call.caster w clock) (i.start call w) with
  | .ok agenda s => ⟨agenda, none, s⟩
  | .error fault s => ⟨[], some fault, s⟩

/-- A moment of a call: the one so many steps after the first. -/
def moment (i : Interpreter α) (call : Call α) (w : World α) (clock : Clock) (n : Nat) : Moment α :=
  (i.cast call.caster w clock).after n (i.opening call w clock)

end Interpreter

end Grimoire
