import Grimoire.Proofs.Call.Quiet

/-! # What one step of a call does

`Cast.Transition` lists everything that a step can do, refusals included, and `Cast.step_transition`
says that there is nothing else.  Invariants of calls are proved by cases on it.
-/

namespace Grimoire

variable {α : Type} [Scalar α] {c : Cast α}

/-! ## All entries -/

namespace Cast

open Run

/-- Everything that a step can do. -/
inductive Transition (c : Cast α) : Moment α → Moment α → Prop where
  | idle (fault) (s : Execution α) : Transition c ⟨[], fault, s⟩ ⟨[], fault, s⟩
  /-- After a fault, what was left is dropped. -/
  | drop {p} (rest fault) (s : Execution α) (ordinary : p.body? = none) :
      Transition c ⟨p :: rest, some fault, s⟩ ⟨rest, some fault, s⟩
  /-- Bodies are closed, also after a fault. -/
  | close (b rest fault) (s : Execution α) :
      Transition c ⟨.close b :: rest, fault, s⟩
        ⟨rest, fault, { s with governor := b.leave s.governor }⟩
  | leads {p more} {s s' : Execution α} (rest) (quiet : p.isQuiet = true) (leads : p.Leads c more)
      (calm : Undisturbed s s') (does : p.Does c more s s') :
      Transition c ⟨p :: rest, none, s⟩ ⟨more ++ rest, none, s'⟩
  | fails {p fault} {s s' : Execution α} (rest) (quiet : p.isQuiet = true) (plain : fault.IsPlain)
      (calm : Undisturbed s s') (drawn : s.Drawn s')
      (unforeseen : fault.IsUnforeseen (p.Checked c.settings.vocabulary)) :
      Transition c ⟨p :: rest, none, s⟩ ⟨rest, some fault, s'⟩
  | known {id} {s : Execution α} (ids ops rest) (known : id ∈ s.governor.affected) :
      Transition c ⟨.targets (id :: ids) ops :: rest, none, s⟩
        ⟨.operations id ops :: .targets ids ops :: rest, none, s⟩
  | meets {id} {s : Execution α} (ids ops rest) (new : id ∉ s.governor.affected)
      (room : Allows c.settings.limits.entities (s.governor.affected.size + 1)) :
      Transition c ⟨.targets (id :: ids) ops :: rest, none, s⟩
        ⟨.operations id ops :: .targets ids ops :: rest, none, s.meet id⟩
  | crowded {id most} {s : Execution α} (ids ops rest) (new : id ∉ s.governor.affected)
      (limit : c.settings.limits.entities = some most)
      (full : most < s.governor.affected.size + 1) :
      Transition c ⟨.targets (id :: ids) ops :: rest, none, s⟩
        ⟨rest, some (.entityLimit most), s⟩
  | counts {s : Execution α} (target op ops rest)
      (time : c.settings.limits.InTime c.clock s.governor.begun)
      (room : Allows c.settings.limits.operations s.overrun.governor.operations.toNat) :
      Transition c ⟨.operations target (op :: ops) :: rest, none, s⟩
        ⟨.dispatch target op :: .operations target ops :: rest, none, s.count⟩
  | overruns {most} {s : Execution α} (target op ops rest)
      (time : c.settings.limits.InTime c.clock s.governor.begun)
      (limit : c.settings.limits.operations = some most)
      (full : most < s.overrun.governor.operations.toNat) :
      Transition c ⟨.operations target (op :: ops) :: rest, none, s⟩
        ⟨rest, some (.operationLimit most), s.overrun⟩
  | late {budget} {s : Execution α} (target op ops rest)
      (limit : c.settings.limits.timeout = some budget)
      (late : budget ≤ c.clock s.governor.begun) :
      Transition c ⟨.operations target (op :: ops) :: rest, none, s⟩
        ⟨rest, some (.timeout budget), s⟩
  | opens {b} {s : Execution α} (inner rest) (room : b.Admitted c.settings.limits s.governor) :
      Transition c ⟨.enter b inner :: rest, none, s⟩
        ⟨inner :: .close b :: rest, none, b.opened s⟩
  | refuses {b fault} {s : Execution α} (inner rest)
      (refused : b.Refused c.settings.limits s.governor fault) :
      Transition c ⟨.enter b inner :: rest, none, s⟩ ⟨rest, some fault, s⟩

theorem step_ok {p : Pending α} {more : List (Pending α)} {s s' : Execution α}
    (rest : List (Pending α)) (h : p.unfold c s = .ok more s') :
    c.step ⟨p :: rest, none, s⟩ = ⟨more ++ rest, none, s'⟩ := by
  simp only [step, h]

theorem step_error {p : Pending α} {fault : Fault} {s s' : Execution α}
    (rest : List (Pending α)) (h : p.unfold c s = .error fault s') :
    c.step ⟨p :: rest, none, s⟩ = ⟨rest, some fault, s'⟩ := by
  simp only [step, h]

theorem transition_quiet {p : Pending α} (quiet : p.isQuiet = true) (rest : List (Pending α))
    (s : Execution α) : c.Transition ⟨p :: rest, none, s⟩ (c.step ⟨p :: rest, none, s⟩) := by
  have atomic := Pending.unfold_atomic (c := c) (s := s) quiet
  cases h : p.unfold c s with
  | ok more s' =>
      rw [step_ok rest h]
      obtain ⟨s₁, drawn, leads, deed, present⟩ := atomic.ok h
      exact .leads rest quiet leads ((Undisturbed.of_drawn drawn).trans deed.undisturbed)
        ⟨s₁, drawn, deed, present⟩
  | error fault s' =>
      rw [step_error rest h]
      obtain ⟨drawn, unforeseen⟩ := atomic.error h
      exact .fails rest quiet unforeseen.1 (.of_drawn drawn) drawn unforeseen

theorem transition_targets (id : EntityId) (ids : List EntityId) (ops : List (Operation α))
    (rest : List (Pending α)) (s : Execution α) :
    c.Transition ⟨.targets (id :: ids) ops :: rest, none, s⟩
      (c.step ⟨.targets (id :: ids) ops :: rest, none, s⟩) := by
  have enrolls := c.enroll_cases s id
  generalize result : c.enroll id s = r at enrolls
  cases enrolls with
  | known known =>
      rw [step_ok rest (bind_ok result)]
      exact .known ids ops rest known
  | meets new room =>
      rw [step_ok rest (bind_ok result)]
      exact .meets ids ops rest new room
  | crowded new limit full =>
      rw [step_error rest (bind_error result)]
      exact .crowded ids ops rest new limit full

theorem transition_operations (target : EntityId) (op : Operation α) (ops : List (Operation α))
    (rest : List (Pending α)) (s : Execution α) :
    c.Transition ⟨.operations target (op :: ops) :: rest, none, s⟩
      (c.step ⟨.operations target (op :: ops) :: rest, none, s⟩) := by
  have permits := c.permit_cases s
  generalize result : c.permit s = r at permits
  cases permits with
  | counts time room =>
      rw [step_ok rest (bind_ok result)]
      exact .counts target op ops rest time room
  | overruns time limit full =>
      rw [step_error rest (bind_error result)]
      exact .overruns target op ops rest time limit full
  | late limit late =>
      rw [step_error rest (bind_error result)]
      exact .late target op ops rest limit late

theorem transition_enter (b : Body) (inner : Pending α) (rest : List (Pending α))
    (s : Execution α) :
    c.Transition ⟨.enter b inner :: rest, none, s⟩ (c.step ⟨.enter b inner :: rest, none, s⟩) := by
  rcases b.admitted_or_refused c.settings.limits s.governor with room | ⟨fault, refused⟩
  · rw [step_ok rest (bind_ok (enter_ok room))]
    exact .opens inner rest room
  · rw [step_error rest (bind_error (enter_refused refused))]
    exact .refuses inner rest refused

theorem step_transition (c : Cast α) (m : Moment α) : c.Transition m (c.step m) := by
  obtain ⟨agenda, fault, s⟩ := m
  cases agenda with
  | nil => exact .idle fault s
  | cons p rest =>
      cases fault with
      | some fault =>
          cases p with
          | close b => exact .close b rest (some fault) s
          | _ => exact .drop rest fault s rfl
      | none =>
          cases p with
          | targets ids ops =>
              cases ids with
              | nil => exact transition_quiet rfl rest s
              | cons id ids => exact transition_targets id ids ops rest s
          | operations target ops =>
              cases ops with
              | nil => exact transition_quiet rfl rest s
              | cons op ops => exact transition_operations target op ops rest s
          | enter b inner => exact transition_enter b inner rest s
          | close b => exact .close b rest none s
          | _ => exact transition_quiet rfl rest s

theorem Transition.eq_of_nil {m m' : Moment α} (h : c.Transition m m') (nothing : m.agenda = []) :
    m' = m := by
  cases h with
  | idle => rfl
  | _ => cases nothing

end Cast

/-! ## The first moment -/

/-- What a call is about when it is prepared. -/
inductive Call.Prepared : Call α → Pending α → Prop where
  | cast (e context) : Prepared (.execute e context) (.weigh e context.target)
  | effect {q e} (work : q.work = .effect e) : Prepared (.request q) (.effect e q.target)
  | operations {q target ops} (work : q.work = .operations target ops) :
      Prepared (.request q) (.targets [target] ops)

/-- Whether what a call is about has passed its static check. -/
def Call.Checked (v : Vocabulary) : Call α → Prop
  | execute e _ => e.check v = .ok ()
  | request q => q.work.Checked v

def Request.needs {α : Type} (q : Request α) : EntityId :=
  match q.work with
  | .effect _ => q.caster
  | .operations target _ => target

/-- Whether the effect that an entry weighs or runs has passed its static check. -/
def Pending.Vetted (v : Vocabulary) : Pending α → Prop
  | weigh e _ | effect e _ => e.check v = .ok ()
  | enter _ inner => inner.Vetted v
  | _ => True

/-- The state of a call that ends because somebody is gone. -/
def Execution.deserted {α : Type} (s : Execution α) : Execution α :=
  { s with report := { s.report with reason := some .participantGone } }

namespace Interpreter

open Run

def seed (i : Interpreter α) (call : Call α) (w : World α) : Execution α :=
  { i.start call w with governor := { (Governor.start : Governor α) with path := call.seeded } }

/-- What the first moment of a call can be. -/
inductive Opening (i : Interpreter α) (call : Call α) (w : World α) : Moment α → Prop where
  | refused {fault} (unforeseen : fault.IsUnforeseen (call.Checked i.settings.vocabulary)) :
      Opening i call w ⟨[], some fault, i.start call w⟩
  | stopped {q} (asked : call = .request q) (gone : w.has q.needs = false) :
      Opening i call w ⟨[], none, (i.start call w).deserted⟩
  | ready {p} (prepared : call.Prepared p) (present : p.Present w)
      (vetted : p.Vetted i.settings.vocabulary) :
      Opening i call w ⟨[p], none, i.seed call w⟩

theorem start_world (i : Interpreter α) (call : Call α) (w : World α) :
    (i.start call w).world = w := by
  cases call <;> rfl

theorem begin_ok (i : Interpreter α) (call : Call α) (w : World α) {e : Effect α}
    (seeded : call.seeded = e.id.toList) :
    Cast.begin e (i.start call w) = .ok () (i.seed call w) := by
  unfold seed Cast.begin
  rw [seeded]
  cases call <;> cases e.id <;> rfl

theorem opening_of_ok {i : Interpreter α} {call : Call α} {w : World α} {clock : Clock}
    {agenda : List (Pending α)} {s : Execution α}
    (h : call.prepare (i.cast call.caster w clock) (i.start call w) = .ok agenda s) :
    i.opening call w clock = ⟨agenda, none, s⟩ := by
  simp only [opening, h]

theorem opening_of_error {i : Interpreter α} {call : Call α} {w : World α} {clock : Clock}
    {fault : Fault} {s : Execution α}
    (h : call.prepare (i.cast call.caster w clock) (i.start call w) = .error fault s) :
    i.opening call w clock = ⟨[], some fault, s⟩ := by
  simp only [opening, h]

end Interpreter

namespace Call

open Run

/-- The effect of a call is put on the path if it is checked and its caster exists. -/
theorem prepare_of_checked {c : Cast α} {e : Effect α} {s : Execution α}
    (checked : e.check c.settings.vocabulary = .ok ()) (there : s.world.has c.caster = true)
    (context : Context) :
    prepare c (.execute e context) s =
      (do Cast.begin e; pure [.weigh e context.target] : Run α (List (Pending α))) s := by
  simp only [prepare]
  rw [bind_ok (check_of_ok checked s), get_bind]
  simp only [there, Bool.not_true, Bool.false_eq_true, if_false]

theorem prepare_execute (c : Cast α) (e : Effect α) (context : Context) (s : Execution α) :
    (∃ fault, fault.IsUnforeseen (e.check c.settings.vocabulary = .ok ()) ∧
      prepare c (.execute e context) s = .error fault s) ∨
      e.check c.settings.vocabulary = .ok () ∧ prepare c (.execute e context) s =
        (do Cast.begin e; pure [.weigh e context.target] : Run α (List (Pending α))) s := by
  cases checked : e.check c.settings.vocabulary with
  | error fault =>
      refine .inl ⟨fault, ⟨(e.plain_check _).fault checked, fun passed => by cases passed⟩, ?_⟩
      exact bind_error (check_of_error checked s)
  | ok =>
      by_cases there : s.world.has c.caster = true
      · exact .inr ⟨rfl, prepare_of_checked checked there context⟩
      · left
        refine ⟨.validation (.missingCaster c.caster), ⟨rfl, fun _ => rfl⟩, ?_⟩
        simp only [prepare]
        rw [bind_ok (check_of_ok checked s), get_bind]
        simp only [there, Bool.not_false, if_true]
        rfl

/-- A request is refused, or stops at once because somebody is gone, or runs an effect or
operations. -/
theorem prepare_request {c : Cast α} {q : Request α} (own : c.caster = q.caster)
    (s : Execution α) :
    (∃ fault, fault.IsUnforeseen (q.work.Checked c.settings.vocabulary) ∧
      prepare c (.request q) s = .error fault s) ∨
      (s.world.has q.needs = false ∧ prepare c (.request q) s = .ok [] s.deserted) ∨
      (∃ e, q.work = .effect e ∧ e.check c.settings.vocabulary = .ok () ∧
        prepare c (.request q) s =
          (do Cast.begin e; pure [.effect e q.target] : Run α (List (Pending α))) s) ∨
      ∃ target ops, q.work = .operations target ops ∧ s.world.has target = true ∧
        prepare c (.request q) s = .ok [.targets [target] ops] s := by
  simp only [prepare, Request.needs]
  cases work : q.work with
  | effect e =>
      simp only
      cases checked : e.check c.settings.vocabulary with
      | error fault =>
          refine .inl ⟨fault, ⟨(e.plain_check _).fault checked, fun passed => ?_⟩, ?_⟩
          · rw [Work.Checked, checked] at passed
            cases passed
          · exact bind_error (check_of_error rfl s)
      | ok =>
          rw [bind_ok (check_of_ok rfl s), get_bind]
          by_cases there : s.world.has c.caster = true
          · simp only [there, if_true]
            exact .inr (.inr (.inl ⟨e, rfl, checked, rfl⟩))
          · rw [own] at there
            rw [own, eq_false_of_ne_true there]
            exact .inr (.inl ⟨rfl, rfl⟩)
  | operations target ops =>
      simp only
      rw [get_bind]
      by_cases there : s.world.has target = true
      · simp only [there, if_true]
        exact .inr (.inr (.inr ⟨target, ops, rfl, there, rfl⟩))
      · rw [eq_false_of_ne_true there]
        exact .inr (.inl ⟨rfl, rfl⟩)

end Call

namespace Interpreter

open Run

theorem opening_cases (i : Interpreter α) (call : Call α) (w : World α) (clock : Clock) :
    i.Opening call w (i.opening call w clock) := by
  cases call with
  | execute e context =>
      have ways := Call.prepare_execute (i.cast context.caster w clock) e context
        (i.start (.execute e context) w)
      rcases ways with ⟨fault, unforeseen, refused⟩ | ⟨checked, prepared⟩
      · rw [opening_of_error refused]
        exact .refused unforeseen
      · rw [bind_ok (i.begin_ok (.execute e context) w rfl)] at prepared
        rw [opening_of_ok prepared]
        exact .ready (.cast e context) trivial checked
  | request q =>
      have ways := Call.prepare_request (c := i.cast q.caster w clock) rfl (i.start (.request q) w)
      rcases ways with ⟨fault, unforeseen, refused⟩ | ⟨gone, stopped⟩ |
        ⟨e, work, checked, prepared⟩ | ⟨target, ops, work, there, prepared⟩
      · rw [opening_of_error refused]
        exact .refused unforeseen
      · rw [opening_of_ok stopped]
        exact .stopped rfl gone
      · rw [bind_ok (i.begin_ok (.request q) w (by simp only [Call.seeded, work]))] at prepared
        rw [opening_of_ok prepared]
        exact .ready (.effect work) trivial checked
      · have seeded : i.start (.request q) w = i.seed (.request q) w := by
          simp only [seed, Call.seeded, work]
          rfl
        rw [opening_of_ok prepared, seeded]
        exact .ready (.operations work) (List.forall_mem_singleton.mpr there) trivial

end Interpreter

end Grimoire
