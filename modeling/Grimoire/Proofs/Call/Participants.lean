import Grimoire.Proofs.Call.Literal

/-! # Requests whose participant is gone

A request of an effect needs its caster, and a request of delayed operations needs its target. If that
entity is gone when the request is run, nothing happens, and the report gives the reason. No other call
gives that reason. The caster of delayed operations is not looked for.
-/

namespace Grimoire

variable {α : Type} [Scalar α]

/-- Whether a call ended well without having done anything, because somebody is gone. -/
structure Report.Deserted (r : Report α) : Prop where
  success : r.success = true
  reason : r.reason = some .participantGone
  operations : r.operations = 0
  chainCount : r.chainCount = 0
  damageDealt : r.damageDealt = 0
  healingDone : r.healingDone = 0
  blank : r.Blank

/-! ## What is asked for can be run -/

/-- Whether what a request is about is not refused by the check that is made before it is run. -/
def Work.Vetted (v : Vocabulary) : Work α → Prop
  | effect e => e.check v = .ok ()
  | operations .. => True

namespace Pending

variable {c : Cast α} {v : Vocabulary} {p : Pending α}

theorem Leads.vetted {more : List (Pending α)} (h : p.Leads c more) (vetted : p.Vetted v) :
    ∀ q ∈ more, q.Vetted v := by
  cases h with
  | done => simp
  | effect => exact List.forall_mem_singleton.mpr vetted
  | _ => simp [Vetted]

theorem inherited_vetted (c : Cast α) (v : Vocabulary) : Inherited c (Vetted v) where
  leads leads vetted := leads.vetted vetted
  targets _ := ⟨trivial, trivial⟩
  operations _ := ⟨trivial, trivial⟩
  enter vetted := ⟨vetted, trivial⟩

theorem Deed.vetted {demand : Option (Demand α)} {s s' : Execution α} (h : p.Deed c demand s s')
    (vetted : p.Vetted v) (earlier : ∀ q ∈ s.report.scheduled, q.work.Vetted v) :
    ∀ q ∈ s'.report.scheduled, q.work.Vetted v := by
  refine h.requested (P := Work.Vetted v) ?_ (fun _ => trivial) earlier
  rintro e target rfl
  exact vetted

end Pending

/-- Whether every effect that is left or was asked for has passed its check. -/
structure Moment.Vetted (v : Vocabulary) (m : Moment α) : Prop where
  agenda : ∀ p ∈ m.agenda, p.Vetted v
  scheduled : ∀ q ∈ m.state.report.scheduled, q.work.Vetted v

theorem Moment.Vetted.transition {c : Cast α} {v : Vocabulary} {m m' : Moment α}
    (h : c.Transition m m') (vetted : m.Vetted v) : m'.Vetted v := by
  obtain ⟨agenda, scheduled⟩ := vetted
  have left := (Pending.inherited_vetted c v).transition h agenda
  cases h with
  | leads rest quiet leads calm does =>
      obtain ⟨s₁, drawn, deed, -⟩ := does
      have own := (List.forall_mem_cons.mp agenda).1
      refine ⟨left, deed.vetted own ?_⟩
      rw [drawn.report]
      exact scheduled
  | fails rest quiet plain calm drawn =>
      refine ⟨left, ?_⟩
      rw [drawn.report]
      exact scheduled
  | _ => exact ⟨left, scheduled⟩

/-! ## Why a call does nothing -/

theorem Move.reason {c : Cast α} {target : EntityId} {s s' : Execution α}
    (h : Move c target s s') : s'.report.reason = s.report.reason := by
  cases h with
  | draw drawn => rw [drawn.report]
  | write found written =>
      obtain ⟨changes, statuses, report⟩ := written.report_eq s.report
      rw [report]
  | _ => rfl

/-- Whether a call has not stopped for lack of somebody. -/
def Execution.Attended (s : Execution α) : Prop := s.report.reason ≠ some .participantGone

theorem Pending.Deed.attended {c : Cast α} {p : Pending α} {demand : Option (Demand α)}
    {s s' : Execution α} (h : p.Deed c demand s s') (attended : s.Attended) : s'.Attended := by
  cases h with
  | nothing | delay => exact attended
  | strike stroke =>
      have same := stroke.keeps (f := fun s => s.report.reason) Move.reason
      intro gone
      exact attended (same.symm.trans gone)
  | stop | request =>
      intro gone
      cases gone

theorem Execution.Attended.transition {c : Cast α} {m m' : Moment α} (h : c.Transition m m')
    (attended : m.state.Attended) : m'.state.Attended := by
  have drawn {s s₁ : Execution α} (drawn : s.Drawn s₁) (attended : s.Attended) : s₁.Attended := by
    unfold Attended
    rw [drawn.report]
    exact attended
  cases h with
  | leads rest quiet leads calm does =>
      obtain ⟨s₁, reads, deed, -⟩ := does
      exact deed.attended (drawn reads attended)
  | fails rest quiet plain calm reads => exact drawn reads attended
  | _ => exact attended

theorem Cast.runWork_gone {c : Cast α} {q : Request α} {s : Execution α}
    (own : c.caster = q.caster) (vetted : q.work.Vetted c.settings.vocabulary)
    (gone : s.world.has q.needs = false) : c.runWork q.target q.work s = .ok () s.deserted := by
  unfold Request.needs at gone
  cases work : q.work with
  | effect e =>
      rw [work] at vetted gone
      have checked : e.check c.settings.vocabulary = .ok () := vetted
      simp only [runWork]
      rw [Run.bind_ok (Run.check_of_ok checked s), Run.get_bind, own, gone]
      rfl
  | operations target ops =>
      rw [work] at gone
      simp only [runWork]
      rw [Run.get_bind, gone]
      rfl

/-! ## Calls -/

namespace Interpreter

variable {i : Interpreter α} {call : Call α}

theorem start_attended (i : Interpreter α) (call : Call α) (w : World α) :
    (i.start call w).Attended := by
  have fresh : (i.start call w).report.reason = none := by
    cases call with
    | execute => rfl
    | request q =>
        obtain ⟨caster, target, dueTick, period, lastTick, work⟩ := q
        cases work <;> rfl
  intro gone
  rw [fresh] at gone
  cases gone

theorem moment_vetted (i : Interpreter α) (call : Call α) (w : World α) (clock : Clock) (n : Nat) :
    (i.moment call w clock n).Vetted i.settings.vocabulary := by
  induction n with
  | zero =>
      have blank := i.start_blank call w
      have unasked : ∀ q ∈ (i.start call w).report.scheduled,
          q.work.Vetted i.settings.vocabulary := by
        simp [blank.scheduled]
      have opening := i.opening_cases call w clock
      change (i.opening call w clock).Vetted i.settings.vocabulary
      generalize i.opening call w clock = m at opening
      cases opening with
      | refused | stopped => exact ⟨by simp, unasked⟩
      | ready prepared present vetted => exact ⟨by simpa using vetted, unasked⟩
  | succ n ih => exact ih.transition (Cast.step_transition ..)

theorem scheduled_vetted {w : World α} {clock : Clock} {q : Request α}
    (asked : q ∈ (i.run call w clock).1.report.scheduled) :
    q.work.Vetted i.settings.vocabulary := by
  obtain ⟨last, nothing, -⟩ := i.exists_last call w clock
  rw [report_run nothing] at asked
  exact (i.moment_vetted call w clock last).scheduled q asked

theorem gone_of_reason {w : World α} {clock : Clock}
    (stopped : (i.run call w clock).1.report.reason = some .participantGone) :
    ∃ q, call = .request q ∧ w.has q.needs = false := by
  by_cases begun : (i.opening call w clock).state.Attended
  · have attended (n : Nat) : (i.moment call w clock n).state.Attended := by
      induction n with
      | zero => exact begun
      | succ n ih => exact ih.transition (Cast.step_transition ..)
    obtain ⟨last, nothing, -⟩ := i.exists_last call w clock
    rw [report_run nothing] at stopped
    exact absurd stopped (attended last)
  · have opening := i.opening_cases call w clock
    generalize i.opening call w clock = m at opening begun
    cases opening with
    | refused => exact absurd (i.start_attended call w) begun
    | @stopped q asked gone => exact ⟨q, asked, gone⟩
    | ready => exact absurd (i.start_attended call w) begun

theorem deserted_startReport (work : Work α) :
    Report.Deserted
      { startReport work with success := true, reason := some .participantGone } := by
  have blank := startReport_blank work
  cases work <;> exact ⟨rfl, rfl, rfl, rfl, rfl, rfl, { blank with }⟩

theorem runRequest_deserted {q : Request α} (vetted : q.work.Vetted i.settings.vocabulary)
    {w : World α} (gone : w.has q.needs = false) (clock : Clock) :
    ∃ r, i.runRequest q w clock = (.ok r, w) ∧ r.Deserted := by
  have stops := Cast.runWork_gone (c := i.cast q.caster w clock) (s := i.start (.request q) w)
    rfl vetted gone
  have run : i.runRequest q w clock = finish (.ok () (i.start (.request q) w).deserted) := by
    rw [← stops]
    rfl
  exact ⟨_, run, deserted_startReport q.work⟩

/-- A call that stops with `participantGone` is the run of a request whose participant does not exist:
the caster of an effect, or the target of delayed operations. A request that a call has made stops so
exactly if its participant is gone. It then succeeds, reports nothing and leaves the world unchanged. -/
theorem participants_needed (i : Interpreter α) (call : Call α) (w : World α) (clock : Clock) :
    ((i.run call w clock).1.report.reason = some .participantGone →
      ∃ q, call = .request q ∧ w.has q.needs = false) ∧
    ∀ q ∈ (i.run call w clock).1.report.scheduled, ∀ (later : Interpreter α) (w' : World α)
      (clock' : Clock), later.settings.vocabulary = i.settings.vocabulary →
        ((later.runRequest q w' clock').1.report.reason = some .participantGone ↔
          w'.has q.needs = false) ∧
        (w'.has q.needs = false →
          ∃ r, later.runRequest q w' clock' = (.ok r, w') ∧ r.Deserted) := by
  refine ⟨gone_of_reason, fun q asked later w' clock' same => ?_⟩
  have vetted := scheduled_vetted asked
  rw [← same] at vetted
  have deserted (gone : w'.has q.needs = false) := runRequest_deserted vetted gone clock'
  refine ⟨⟨fun stopped => ?_, fun gone => ?_⟩, deserted⟩
  · have run : (later.run (.request q) w' clock').1.report.reason = some .participantGone := stopped
    obtain ⟨q', own, gone⟩ := gone_of_reason run
    cases own
    exact gone
  · obtain ⟨r, run, idle⟩ := deserted gone
    rw [run]
    exact idle.reason

def fuse : Effect Float where
  target := { shape := .single }
  operations := [.delay (.number 1) [.act (.dealDamage "fire" (.number 3))]]

def fused : Request Float where
  caster := 1
  target := some 2
  dueTick := 1
  work := .operations 2 [.act (.dealDamage "fire" (.number 3))]

/-- The target is gone, and the request does nothing. -/
theorem fused_deserted :
    fused ∈ (novice.execute fuse { caster := 1, target := some 2 } duel).1.report.scheduled ∧
      ∃ r, novice.runRequest fused (duel.remove 2) = (.ok r, duel.remove 2) ∧ r.Deserted := by
  have asked : fused ∈ (novice.run (.execute fuse { caster := 1, target := some 2 }) duel
      .still).1.report.scheduled := by
    have scheduled : (novice.run (.execute fuse { caster := 1, target := some 2 }) duel
        .still).1.report.scheduled = #[fused] := rfl
    simp [scheduled]
  have gone : (duel.remove 2).has fused.needs = false := by decide +kernel
  have needed := participants_needed novice (.execute fuse { caster := 1, target := some 2 }) duel
    .still
  exact ⟨asked, (needed.2 fused asked novice (duel.remove 2) .still rfl).2 gone⟩

/-- The caster is gone, and the request burns its target. -/
theorem fused_burns :
    fused ∈ (novice.execute fuse { caster := 1, target := some 2 } duel).1.report.scheduled ∧
      (duel.remove 1).has fused.caster = false ∧
      (novice.runRequest fused (duel.remove 1)).1.report.reason = none ∧
      (novice.runRequest fused (duel.remove 1)).1.report.operations = 1 ∧
      (novice.runRequest fused (duel.remove 1)).1.report.damageDealt = 3 := by
  have scheduled : (novice.execute fuse { caster := 1, target := some 2 }
      duel).1.report.scheduled = #[fused] := rfl
  refine ⟨by simp [scheduled], ?_, ?_, ?_, ?_⟩ <;> decide +kernel

end Interpreter

end Grimoire
