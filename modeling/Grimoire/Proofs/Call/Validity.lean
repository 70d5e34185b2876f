import Grimoire.Proofs.Call.Account

/-! # Static checks are enough

What has passed its static check is never refused for a reason that the check is there for, however
deep in it the refusal would be, and however much later.  The effects of a spellbook were checked when
they were registered, everything on an agenda is a part of something that was checked, and so is
everything that is asked to be run later.
-/

namespace Grimoire

variable {α : Type} [Scalar α]

/-! ## Spellbooks -/

/-- Whether all effects of a spellbook have passed their static check. -/
def Spellbook.Checked (v : Vocabulary) (b : Spellbook α) : Prop :=
  ∀ id e, b.get? id = some e → e.check v = .ok ()

namespace Spellbook.Checked

variable {v : Vocabulary} {b : Spellbook α}

theorem empty : Checked v ({} : Spellbook α) := by
  intro id e found
  simp [get?] at found

theorem register (h : b.Checked v) {b' : Spellbook α} {e : Effect α} (checked : e.check v = .ok ())
    (registered : b.register e = .ok b') : b'.Checked v := by
  unfold Spellbook.register at registered
  split at registered
  · cases registered
  · next own _ =>
      have rest := (Fault.ok_of_seq registered).2
      split at rest
      · cases rest
      · cases rest
        intro id e' found
        by_cases same : own = id
        · subst same
          have new : e = e' := by simpa [get?] using found
          exact new ▸ checked
        · rw [get?, Std.ExtTreeMap.getElem?_insert, if_neg (by simpa using same)] at found
          exact h id e' found

theorem require (h : b.Checked v) {id : String} {e : Effect α} (found : b.require id = .ok e) :
    e.check v = .ok () :=
  h id e (found_of_require found)

end Spellbook.Checked

namespace Interpreter

theorem of_register {i i' : Interpreter α} {e : Effect α} (h : i.register e = .ok i') :
    e.check i.settings.vocabulary = .ok () ∧
      ∃ book, i.book.register e = .ok book ∧ i' = { i with book := book } := by
  obtain ⟨checked, rest⟩ := Fault.ok_of_seq h
  obtain ⟨book, registered, answer⟩ := Fault.ok_of_bind rest
  cases answer
  exact ⟨checked, book, registered, rfl⟩

/-- The interpreters with some settings that only know effects which they have registered. -/
inductive Built (settings : Settings α) : Interpreter α → Prop where
  | new : Built settings ⟨settings, {}⟩
  | register {i i' e} (built : Built settings i) (registered : i.register e = .ok i') :
      Built settings i'

namespace Built

variable {settings : Settings α} {i : Interpreter α}

theorem settings_eq (h : Built settings i) : i.settings = settings := by
  induction h with
  | new => rfl
  | register _ registered ih =>
      obtain ⟨-, book, -, rfl⟩ := of_register registered
      exact ih

theorem checked (h : Built settings i) : i.book.Checked settings.vocabulary := by
  induction h with
  | new => exact Spellbook.Checked.empty
  | register built registered ih =>
      obtain ⟨checked, book, added, rfl⟩ := of_register registered
      rw [built.settings_eq] at checked
      exact ih.register checked added

end Built

end Interpreter

/-! ## What is asked for -/

theorem Move.scheduled {c : Cast α} {target : EntityId} {s s' : Execution α}
    (h : Move c target s s') : s'.report.scheduled = s.report.scheduled := by
  cases h with
  | draw drawn => rw [drawn.report]
  | restore | wound | allot | spawn | emit => rfl
  | write found written =>
      obtain ⟨changes, statuses, report⟩ := written.report_eq s.report
      rw [report]

omit [Scalar α] in
theorem Cast.work_of_request? {c : Cast α} {e : Effect α} {target : Option EntityId} {q : Request α}
    (asked : c.request? e target = some q) : q.work = .effect e := by
  unfold Cast.request? at asked
  split at asked <;> cases asked <;> rfl

/-! ## Parts -/

namespace Pending

variable {c : Cast α} {v : Vocabulary} {p : Pending α}

theorem Leads.checked {more : List (Pending α)} (h : p.Leads c more)
    (book : c.book.Checked v) (checked : p.Checked v) : ∀ q ∈ more, q.Checked v := by
  cases h with
  | done => exact fun q listed => absurd listed List.not_mem_nil
  | effect => exact List.forall_mem_singleton.mpr checked
  | targets | triggered =>
      exact List.forall_mem_singleton.mpr (Effect.parts_of_check checked).2.2
  | chained => exact List.forall_mem_singleton.mpr (Effect.parts_of_check checked.1).2.2
  | chain target newTarget found =>
      refine List.forall_mem_singleton.mpr ⟨book.require found, ?_⟩
      unfold Checked Operation.check at checked
      exact (Fault.ok_of_seq checked).2
  | trigger target found => exact List.forall_mem_singleton.mpr (book.require found)
  | accepted =>
      refine List.forall_mem_singleton.mpr ?_
      unfold Checked Operation.check at checked
      exact (Fault.ok_of_seq (Fault.ok_of_seq checked).2).1
  | refused =>
      refine List.forall_mem_singleton.mpr ?_
      unfold Checked Operation.check at checked
      exact (Fault.ok_of_seq (Fault.ok_of_seq (Fault.ok_of_seq checked).2).2).2
  | rounds =>
      refine List.forall_mem_singleton.mpr ?_
      unfold Checked Operation.check at checked
      exact (Fault.ok_of_seq (Fault.ok_of_seq checked).2).2
  | round => exact List.forall_mem_cons.mpr ⟨checked, List.forall_mem_singleton.mpr checked⟩

theorem inherited_checked (book : c.book.Checked v) : Inherited c (Checked v) where
  leads leads checked := leads.checked book checked
  targets checked := ⟨checked, checked⟩
  operations checked := by
    unfold Checked Operation.checkAll at checked
    exact Fault.ok_of_seq checked
  enter checked := ⟨checked, trivial⟩

theorem Deed.requested {P : Work α → Prop} {demand : Option (Demand α)} {s s' : Execution α}
    (h : p.Deed c demand s s') (weighed : ∀ {e target}, p = weigh e target → P (.effect e))
    (delayed : ∀ {target ticks body}, p = dispatch target (.delay ticks body) →
      P (.operations target body))
    (earlier : ∀ q ∈ s.report.scheduled, P q.work) : ∀ q ∈ s'.report.scheduled, P q.work := by
  cases h with
  | nothing | stop => exact earlier
  | strike stroke =>
      rw [stroke.keeps (f := fun s => s.report.scheduled) Move.scheduled]
      exact earlier
  | request s asked =>
      intro q listed
      rcases Array.mem_push.mp listed with before | rfl
      · exact earlier q before
      · rw [Cast.work_of_request? asked]
        exact weighed rfl
  | delay =>
      intro q listed
      rcases Array.mem_push.mp listed with before | rfl
      · exact earlier q before
      · exact delayed rfl

theorem Deed.checked {demand : Option (Demand α)} {s s' : Execution α}
    (h : p.Deed c demand s s') (checked : p.Checked v)
    (earlier : ∀ q ∈ s.report.scheduled, q.work.Checked v) :
    ∀ q ∈ s'.report.scheduled, q.work.Checked v := by
  refine h.requested (P := Work.Checked v) (fun own => ?_) (fun own => ?_) earlier
  · subst own
    exact checked
  · subst own
    unfold Checked Operation.check at checked
    exact (Fault.ok_of_seq (Fault.ok_of_seq checked).2).2

end Pending

/-! ## Moments -/

/-- Whether everything that is left and everything that was asked for has been checked, and nothing has
failed for what checks are there for. -/
structure Moment.Checked (v : Vocabulary) (m : Moment α) : Prop where
  agenda : ∀ p ∈ m.agenda, p.Checked v
  scheduled : ∀ q ∈ m.state.report.scheduled, q.work.Checked v
  fault : ∀ fault, m.fault = some fault → fault.isStatic = false

omit [Scalar α] in
theorem Body.Refused.isStatic_eq {limits : Limits α} {g : Governor α} {b : Body} {fault : Fault}
    (h : b.Refused limits g fault) : fault.isStatic = false := by
  cases h <;> rfl

namespace Moment.Checked

variable {c : Cast α} {m m' : Moment α}

theorem transition (h : c.Transition m m') (book : c.book.Checked c.settings.vocabulary)
    (checked : m.Checked c.settings.vocabulary) : m'.Checked c.settings.vocabulary := by
  obtain ⟨agenda, scheduled, harmless⟩ := checked
  have left := (Pending.inherited_checked book).transition h agenda
  have running (fault : Fault) (failed : none = some fault) : fault.isStatic = false := by
    cases failed
  cases h with
  | idle | drop | close => exact ⟨left, scheduled, harmless⟩
  | leads rest quiet leads calm does =>
      obtain ⟨s₁, drawn, deed, -⟩ := does
      refine ⟨left, ?_, running⟩
      refine deed.checked (List.forall_mem_cons.mp agenda).1 ?_
      rw [drawn.report]
      exact scheduled
  | fails rest quiet plain calm drawn unforeseen =>
      refine ⟨left, ?_, fun raised failed => ?_⟩
      · rw [drawn.report]
        exact scheduled
      · cases failed
        exact unforeseen.2 (List.forall_mem_cons.mp agenda).1
  | known | meets | counts | opens => exact ⟨left, scheduled, running⟩
  | crowded | overruns | late =>
      refine ⟨left, scheduled, fun raised failed => ?_⟩
      cases failed
      rfl
  | refuses inner rest refused =>
      refine ⟨left, scheduled, fun raised failed => ?_⟩
      cases failed
      exact refused.isStatic_eq

end Moment.Checked

/-! ## Calls -/

namespace Interpreter

variable {i : Interpreter α} {call : Call α}

theorem opening_checked (checked : call.Checked i.settings.vocabulary) (w : World α)
    (clock : Clock) : (i.opening call w clock).Checked i.settings.vocabulary := by
  have blank := i.start_blank call w
  have opening := i.opening_cases call w clock
  generalize i.opening call w clock = m at opening
  have none (q : Request α) (listed : q ∈ (i.start call w).report.scheduled) :
      q.work.Checked i.settings.vocabulary := by
    rw [blank.scheduled] at listed
    exact absurd listed (Array.not_mem_empty q)
  have nothing (p : Pending α) (listed : p ∈ []) : p.Checked i.settings.vocabulary :=
    absurd listed List.not_mem_nil
  cases opening with
  | refused unforeseen =>
      refine ⟨nothing, none, fun raised failed => ?_⟩
      cases failed
      exact unforeseen.2 checked
  | stopped => exact ⟨nothing, none, fun raised failed => by cases failed⟩
  | ready prepared =>
      refine ⟨List.forall_mem_singleton.mpr ?_, none, fun raised failed => by cases failed⟩
      cases prepared with
      | cast => exact checked
      | effect work | operations work =>
          have given : Work.Checked i.settings.vocabulary _ := checked
          rw [work] at given
          exact given

theorem moment_checked (book : i.book.Checked i.settings.vocabulary)
    (checked : call.Checked i.settings.vocabulary) (w : World α) (clock : Clock) (n : Nat) :
    (i.moment call w clock n).Checked i.settings.vocabulary := by
  induction n with
  | zero => exact opening_checked checked w clock
  | succ n ih => exact ih.transition (Cast.step_transition (i.cast call.caster w clock) _) book

theorem scheduled_checked (call : Call α) (book : i.book.Checked i.settings.vocabulary)
    (checked : call.Checked i.settings.vocabulary) {w : World α} {clock : Clock} {q : Request α}
    (asked : q ∈ (i.run call w clock).1.report.scheduled) :
    q.work.Checked i.settings.vocabulary := by
  obtain ⟨last, nothing, -⟩ := i.exists_last call w clock
  rw [report_run nothing] at asked
  exact (moment_checked book checked w clock last).scheduled q asked

/-- The requests that come, directly or by way of other requests, of effects that have passed their
static check, in whatever worlds. -/
inductive Obtained (settings : Settings α) : Request α → Prop where
  | execute {i : Interpreter α} {e context w clock q} (built : Built settings i)
      (checked : e.check settings.vocabulary = .ok ())
      (asked : q ∈ (i.execute e context w clock).1.report.scheduled) : Obtained settings q
  | request {i : Interpreter α} {q w clock q'} (built : Built settings i)
      (obtained : Obtained settings q)
      (asked : q' ∈ (i.runRequest q w clock).1.report.scheduled) : Obtained settings q'

theorem Obtained.checked {settings : Settings α} {q : Request α} (h : Obtained settings q) :
    q.work.Checked settings.vocabulary := by
  induction h with
  | @execute i e context w clock q built checked asked =>
      have book := built.checked
      rw [← built.settings_eq] at checked book ⊢
      exact scheduled_checked (.execute e context) book checked asked
  | @request i q w clock q' built obtained asked ih =>
      have book := built.checked
      rw [← built.settings_eq] at ih book ⊢
      exact scheduled_checked (.request q) book ih asked

end Interpreter

/-- Whether a call is of an effect that has passed its static check, or of a request that comes of
one. -/
def Call.Sanctioned (settings : Settings α) : Call α → Prop
  | execute e _ => e.check settings.vocabulary = .ok ()
  | request q => Interpreter.Obtained settings q

namespace Interpreter

variable {settings : Settings α} {i : Interpreter α} {call : Call α}

/-- A call of a checked effect or request does not fail for anything that the check refuses. At every
moment, all that is left to do has passed the check, and so has every effect that can be named. -/
theorem validation_sound (built : Built settings i) (sanctioned : call.Sanctioned settings)
    (w : World α) (clock : Clock) :
    (∀ failure, (i.run call w clock).1 = .error failure → failure.fault.isStatic = false) ∧
    (∀ n, ∀ p ∈ (i.moment call w clock n).agenda, p.Checked settings.vocabulary) ∧
    (∀ q ∈ (i.run call w clock).1.report.scheduled, q.work.Checked settings.vocabulary) ∧
    ∀ id e, i.book.require id = .ok e → e.check settings.vocabulary = .ok () := by
  have book := built.checked
  have checked : call.Checked settings.vocabulary := by
    cases call with
    | execute => exact sanctioned
    | request => exact Obtained.checked sanctioned
  rw [← built.settings_eq] at book checked ⊢
  obtain ⟨last, nothing, -⟩ := i.exists_last call w clock
  refine ⟨fun failure failed => ?_, fun n => (moment_checked book checked w clock n).agenda,
    fun q asked => scheduled_checked call book checked asked, fun id e found => book.require found⟩
  exact (moment_checked book checked w clock last).fault _ (fault_of_run nothing failed)

/-- An effect that is well formed and yet cannot be carried out. -/
def ember : Effect Float where
  id := some "ember"
  target := { shape := .self }
  operations := [.act (.heal (.binary .sub (.number 0) (.number 1)))]

def apprentice : Interpreter Float where
  settings := .standard
  book := ⟨(∅ : NameMap (Effect Float)).insert "ember" ember⟩

theorem apprentice_built : Built Settings.standard apprentice := by
  refine .register (e := ember) .new ?_
  have checked : ember.check (Settings.standard : Settings Float).vocabulary = .ok () := by
    decide +kernel
  have named : Vocabulary.checkIdentifier "effect id" "ember" = .ok () := by
    decide +kernel
  have added : ({} : Spellbook Float).register ember = .ok apprentice.book := by
    change (do
      Vocabulary.checkIdentifier "effect id" "ember"
      if ({} : Spellbook Float).contains "ember" then _ else _) = _
    rw [named]
    rfl
  unfold register
  rw [checked]
  change (do
    let book ← ({} : Spellbook Float).register ember
    pure ({ settings := .standard, book := book } : Interpreter Float)) = _
  rw [added]
  rfl

def spark : Effect Float where
  target := { shape := .self }
  operations := [.trigger "ember"]

/-- The call fails, but for no fault that a check raises. -/
theorem spark_sound :
    let outcome := (apprentice.run (.execute spark { caster := 1 }) lonely .still).1
    ∃ failure, outcome = .error failure ∧ failure.fault.isStatic = false := by
  have sanctioned : (Call.execute spark { caster := 1 }).Sanctioned Settings.standard := by
    have checked : spark.check (Settings.standard : Settings Float).vocabulary = .ok () := by
      decide +kernel
    exact checked
  have failed : (apprentice.run (.execute spark { caster := 1 }) lonely .still).1.isOk = false := by
    decide +kernel
  obtain ⟨sound, -⟩ := validation_sound apprentice_built sanctioned lonely .still
  dsimp only
  cases ended : (apprentice.run (.execute spark { caster := 1 }) lonely .still).1 with
  | ok =>
      rw [ended] at failed
      cases failed
  | error failure => exact ⟨failure, rfl, sound failure ended⟩

end Interpreter

end Grimoire
