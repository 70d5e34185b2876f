import Grimoire.Proofs.Call.Chronicle
import Grimoire.Proofs.Call.Literal
import Grimoire.Proofs.Run.Indifferent

/-! # To defer an effect is to run it later

A deferred effect leads to a request, and a request is run by `Cast.runWork` instead of
`Cast.runTopLevel`. Both check the effect, look for the caster, put the effect on the path and seed the
stream alike. So running the request is the same as calling the effect at that time, with immediate
timing and no conditions, except for the timing in the report.
-/

namespace Grimoire

open Run

variable {α : Type}

/-! ## The same effect at once -/

/-- An effect that is run when it is called for, under no conditions. -/
def Effect.atOnce (e : Effect α) : Effect α := { e with timing := .immediate, conditions := [] }

/-- A call of what a request asks for, at once and on its own account. -/
def Request.atOnce (q : Request α) (e : Effect α) : Call α :=
  .execute e.atOnce { caster := q.caster, target := q.target }

def Variation.retimed (timing : Timing) : Variation α := { timing := fun _ => timing }

/-- The same outcome, with a report that gives another timing. -/
def Outcome.retimed (timing : Timing) : Outcome α → Outcome α
  | .ok r => .ok { r with timing := timing }
  | .error failure => .error { failure with done := { failure.done with timing := timing } }

theorem Interpreter.finish_retimed (timing : Timing) (r : EStateM.Result Fault (Execution α) Unit) :
    finish ((Variation.retimed timing).result r) = ((finish r).1.retimed timing, (finish r).2) := by
  cases r <;> rfl

variable [Scalar α]

theorem Effect.check_atOnce {e : Effect α} (timed : e.timing.check = .ok ()) (v : Vocabulary) :
    e.atOnce.check v = e.check v := by
  unfold check
  rw [timed]
  rfl

namespace Cast

variable {c : Cast α} {e : Effect α} {target : Option EntityId} {s s' : Execution α}

omit [Scalar α] in
theorem indifferent_begin (other : Variation α) (e : Effect α) : (begin e).Indifferent other := by
  unfold begin
  split
  · exact .pure ()
  · exact .modify fun _ => rfl

/-- What is done for an effect that has passed its check and whose caster exists. -/
def weigh (c : Cast α) (e : Effect α) (target : Option EntityId) : Run α Unit := do
  begin e
  let met ← c.conditionsHold target e.conditions
  if met then
    match c.request? e target with
    | none => c.runEffect e target
    | some q => do
      stop .scheduled
      Run.note (Report.schedule q)
  else stop .conditionsNotMet

theorem runTopLevel_of_checked (checked : e.check c.settings.vocabulary = .ok ())
    (there : s.world.has c.caster = true) : c.runTopLevel e target s = c.weigh e target s := by
  unfold runTopLevel
  rw [bind_ok (check_of_ok checked s), get_bind]
  simp only [there, Bool.not_true, Bool.false_eq_true, if_false]
  rfl

theorem runTopLevel_of_missing (checked : e.check c.settings.vocabulary = .ok ())
    (gone : s.world.has c.caster = false) :
    c.runTopLevel e target s = .error (.validation (.missingCaster c.caster)) s := by
  unfold runTopLevel
  rw [bind_ok (check_of_ok checked s), get_bind, gone]
  rfl

theorem runTopLevel_cases (c : Cast α) (e : Effect α) (target : Option EntityId) (s : Execution α) :
    (∃ fault, c.runTopLevel e target s = .error fault s) ∨
      e.check c.settings.vocabulary = .ok () ∧ c.runTopLevel e target s = c.weigh e target s := by
  cases checked : e.check c.settings.vocabulary with
  | error fault => exact .inl ⟨fault, bind_error (check_of_error checked s)⟩
  | ok =>
      by_cases there : s.world.has c.caster = true
      · exact .inr ⟨rfl, runTopLevel_of_checked checked there⟩
      · exact .inl ⟨_, runTopLevel_of_missing checked (eq_false_of_ne_true there)⟩

theorem indifferent_runTopLevel {other : Variation α} (still : other.stream = id)
    (uncounted : other.Uncounted) (c : Cast α) (e : Effect α) (target : Option EntityId) :
    (c.runTopLevel e target).Indifferent other := by
  have weighed : (c.weigh e target).Indifferent other := by
    refine (indifferent_begin other e).bind fun _ => ?_
    refine (c.indifferent_conditionsHold target fun _ _ => .inl still).bind fun met => ?_
    refine .ite ?_ (.note fun _ => rfl)
    split
    · exact indifferent_runEffect still uncounted c e target
    · refine .bind (.note fun _ => rfl) fun _ => .note fun r => ?_
      unfold Variation.report
      rw [uncounted.scheduled]
      rfl
  refine (Indifferent.check _).bind fun _ => .get_bind (fun _ => rfl) fun s => ?_
  exact .ite ((Indifferent.throw _).bind fun _ => weighed) weighed

theorem runWork_eq_runTopLevel (timed : e.timing.check = .ok ())
    (there : s.world.has c.caster = true) :
    c.runWork target (.effect e) s = c.runTopLevel e.atOnce target s := by
  have same := Effect.check_atOnce timed c.settings.vocabulary
  cases checked : e.check c.settings.vocabulary with
  | error fault =>
      have work : c.runWork target (.effect e) s = .error fault s :=
        bind_error (check_of_error checked s)
      have call : c.runTopLevel e.atOnce target s = .error fault s :=
        bind_error (check_of_error (same.trans checked) s)
      rw [work, call]
  | ok =>
      have work : c.runWork target (.effect e) s =
          (do begin e; c.runEffect e target : Run α Unit) s := by
        refine (bind_ok (check_of_ok checked s)).trans ?_
        rw [get_bind, if_pos there]
      rw [work, runTopLevel_of_checked (same.trans checked) there]
      rfl

omit [Scalar α] in
theorem begin_ok (e : Effect α) (s : Execution α) :
    ∃ g, begin e s = .ok () { s with governor := g } := by
  unfold begin
  cases e.id <;> exact ⟨_, rfl⟩

omit [Scalar α] in
theorem request?_of_deferred (c : Cast α) (deferred : e.timing ≠ .immediate)
    (target : Option EntityId) :
    ∃ q, c.request? e target = some q ∧ q.caster = c.caster ∧ q.target = target ∧
      q.work = .effect e := by
  unfold request?
  cases timed : e.timing with
  | immediate => exact absurd timed deferred
  | delayed | periodic => exact ⟨_, rfl, rfl, rfl, rfl⟩

theorem runTopLevel_scheduled (deferred : e.timing ≠ .immediate)
    (ended : c.runTopLevel e target s = .ok () s')
    (scheduled : s'.report.reason = some .scheduled) :
    e.check c.settings.vocabulary = .ok () ∧ s'.world = s.world ∧
      ∃ q, c.request? e target = some q ∧ s'.report = { s.report with
        reason := some .scheduled
        scheduled := s.report.scheduled.push q } := by
  rcases c.runTopLevel_cases e target s with ⟨fault, refused⟩ | ⟨checked, weighed⟩
  · rw [refused] at ended
    cases ended
  rw [weighed] at ended
  obtain ⟨g, begun⟩ := begin_ok e s
  obtain ⟨met, s₂, asked, rest⟩ := ok_of_bind ((bind_ok begun).symm.trans ended)
  have reads : (c.conditionsHold target e.conditions).Reads True { s with governor := g } :=
    reads_conditionsHold ..
  obtain ⟨stream, rfl⟩ := reads.drawn asked
  obtain ⟨q, request, -⟩ := c.request?_of_deferred deferred target
  cases met with
  | false =>
      cases rest
      cases scheduled
  | true =>
      rw [if_pos rfl, request] at rest
      cases rest
      exact ⟨checked, rfl, q, request, rfl⟩

end Cast

/-! ## Calls and requests -/

namespace Interpreter

theorem runRequest_eq_execute (i : Interpreter α) {q : Request α} {e : Effect α}
    (work : q.work = .effect e) (timed : e.timing.check = .ok ()) {w : World α}
    (there : w.has q.caster = true) (clock : Clock) :
    i.runRequest q w clock =
      ((i.run (q.atOnce e) w clock).1.retimed e.timing, (i.run (q.atOnce e) w clock).2) := by
  have drawsAlike : (Variation.retimed e.timing : Variation α).stream = id := rfl
  have same := (Cast.indifferent_runTopLevel drawsAlike ⟨rfl, rfl, rfl, rfl⟩
    (i.cast q.caster w clock) e.atOnce q.target).same (i.start (q.atOnce e) w)
  have carried : i.runRequest q w clock =
      finish ((i.cast q.caster w clock).runTopLevel e.atOnce q.target
        ((Variation.retimed e.timing).state (i.start (q.atOnce e) w))) := by
    rw [← Cast.runWork_eq_runTopLevel timed there]
    unfold runRequest
    rw [work]
    rfl
  rw [carried, same]
  exact finish_retimed ..

end Interpreter

/-- A time at which a call is made. -/
structure Occasion (α : Type) where
  interpreter : Interpreter α
  clock : Clock := .still
  /-- What has become of the world since the last time. -/
  meanwhile : World α → World α := id

/-- Makes a call on every occasion; the answers are how it ended every time, and the world after it. -/
def Call.fire (call : Call α) : List (Occasion α) → World α → List (Outcome α) × World α
  | [], w => ([], w)
  | o :: os, w =>
    let ended := o.interpreter.run call (o.meanwhile w) o.clock
    let later := fire call os ended.2
    (ended.1 :: later.1, later.2)

theorem Request.fire_eq {q : Request α} {e : Effect α} (work : q.work = .effect e)
    (timed : e.timing.check = .ok ()) {occasions : List (Occasion α)}
    (kept : ∀ o ∈ occasions, ∀ w, w.has q.caster = true → (o.meanwhile w).has q.caster = true)
    {w : World α} (there : w.has q.caster = true) :
    Call.fire (.request q) occasions w =
      ((Call.fire (q.atOnce e) occasions w).1.map (Outcome.retimed e.timing),
        (Call.fire (q.atOnce e) occasions w).2) := by
  induction occasions generalizing w with
  | nil => rfl
  | cons o os ih =>
      obtain ⟨first, others⟩ := List.forall_mem_cons.mp kept
      have present := first w there
      have same : o.interpreter.run (.request q) (o.meanwhile w) o.clock = _ :=
        o.interpreter.runRequest_eq_execute work timed present o.clock
      have still : (o.interpreter.run (q.atOnce e) (o.meanwhile w) o.clock).2.has q.caster = true :=
        ((o.interpreter.run_numbers ..).2.2.1 q.caster).mpr (.inl present)
      simp only [Call.fire, same, ih others still, List.map_cons]

namespace Interpreter

/-- Deferring an effect changes nothing but when it runs.

A call that ends with its effect scheduled leaves the world unchanged, counts no operation, and makes
one request. Running this request, any number of times and in any world that has the caster, gives the
same outcome and the same world as calling the effect there with immediate timing and no conditions; the
two reports differ only in the timing that they name. -/
theorem deferred_runs_alike (i : Interpreter α) (e : Effect α) (context : Context) (w₀ : World α)
    (clock₀ : Clock) {r : Report α} (deferred : e.timing ≠ .immediate)
    (ended : (i.execute e context w₀ clock₀).1 = .ok r) (scheduled : r.reason = some .scheduled) :
    (i.execute e context w₀ clock₀).2 = w₀ ∧ r.operations = 0 ∧ ∃ q, r.scheduled = #[q] ∧
      q.caster = context.caster ∧ q.target = context.target ∧
      (∀ (j : Interpreter α) (w : World α) (clock : Clock), w.has context.caster = true →
        let now := j.execute { e with timing := .immediate, conditions := [] }
          { caster := context.caster, target := context.target, seed := none } w clock
        j.runRequest q w clock = (now.1.retimed e.timing, now.2)) ∧
      ∀ (occasions : List (Occasion α)) (w : World α), w.has context.caster = true →
        (∀ o ∈ occasions, ∀ w, w.has context.caster = true →
          (o.meanwhile w).has context.caster = true) →
        let now := Call.fire (q.atOnce e) occasions w
        Call.fire (.request q) occasions w = (now.1.map (Outcome.retimed e.timing), now.2) := by
  unfold execute at ended ⊢
  cases run : (i.cast context.caster w₀ clock₀).runTopLevel e context.target _ with
  | error fault s =>
      rw [run] at ended
      cases ended
  | ok _ s =>
      rw [run] at ended
      cases ended
      obtain ⟨checked, world, q, request, report⟩ :=
        Cast.runTopLevel_scheduled deferred run scheduled
      obtain ⟨q', request', caster, target, work⟩ :=
        (i.cast context.caster w₀ clock₀).request?_of_deferred deferred context.target
      cases request.symm.trans request'
      have own : q.caster = context.caster := caster
      have timed := (Effect.parts_of_check checked).2.1
      refine ⟨world, ?_, q, ?_, own, target, fun j w clock there => ?_,
        fun occasions w there kept => ?_⟩
      · rw [report]
        rfl
      · rw [report]
        rfl
      · have same := j.runRequest_eq_execute work timed (own ▸ there) clock
        unfold Request.atOnce at same
        rw [own, target] at same
        exact same
      · rw [← own] at there kept
        exact Request.fire_eq work timed kept there

/-! ## A slow fire -/

/-- An effect that burns its target again and again, if the target is healthy at first. -/
def smoulder : Effect Float where
  target := { shape := .single }
  operations := [.act (.dealDamage "fire" (.number 12))]
  timing := .periodic 1 3
  conditions := [.binary .gt (.path ⟨"target.health", .entity .target .health⟩) (.number 20)]

def smoulder.context : Context := { caster := 1, target := some 2 }

def nextTick : Occasion Float := { interpreter := novice, meanwhile := fun w => w.advance.2 }

/-- The request is run twice, and each run equals an immediate call. -/
theorem smoulder_burns :
    smoulder.timing ≠ .immediate ∧ duel.has 1 = true ∧
      ∃ r q, (novice.execute smoulder smoulder.context duel .still).1 = .ok r ∧
        r.reason = some .scheduled ∧ r.scheduled = #[q] ∧
        (((Call.fire (q.atOnce smoulder) [nextTick, nextTick] duel).2.entity? 2).any
          fun e => (e.get? .health).any fun h => h.current == 6) = true ∧
        (Call.fire (.request q) [nextTick, nextTick] duel).2 =
          (Call.fire (q.atOnce smoulder) [nextTick, nextTick] duel).2 := by
  have deferred : smoulder.timing ≠ .immediate := by decide
  have there : duel.has 1 = true := by decide +kernel
  have kept : ∀ o ∈ [nextTick, nextTick], ∀ w : World Float, w.has 1 = true →
      (o.meanwhile w).has 1 = true := by
    intro o listed w present
    have own : o = nextTick := by simpa using listed
    rw [own]
    exact (w.has_advance 1).trans present
  cases ended : (novice.execute smoulder smoulder.context duel .still).1 with
  | error failure =>
      have accepted : (novice.execute smoulder smoulder.context duel .still).1.isOk = true := by
        decide +kernel
      rw [ended] at accepted
      cases accepted
  | ok r =>
      have scheduled : r.reason = some .scheduled := by
        have reason : (novice.execute smoulder smoulder.context duel .still).1.report.reason =
            some .scheduled := by decide +kernel
        rw [ended] at reason
        exact reason
      obtain ⟨-, -, q, asked, caster, target, -, again⟩ :=
        deferred_runs_alike novice smoulder smoulder.context duel .still deferred ended scheduled
      have burnt : (((Call.fire (q.atOnce smoulder) [nextTick, nextTick] duel).2.entity? 2).any
          fun e => (e.get? .health).any fun h => h.current == 6) = true := by
        unfold Request.atOnce
        rw [caster, target]
        decide +kernel
      refine ⟨deferred, there, r, q, rfl, scheduled, asked, burnt, ?_⟩
      rw [again [nextTick, nextTick] duel there kept]

end Interpreter

end Grimoire
