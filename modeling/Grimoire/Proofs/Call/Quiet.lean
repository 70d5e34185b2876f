import Grimoire.Proofs.Call.Moment
import Grimoire.Proofs.Run.Frame

/-! # What quiet entries do

Most entries of an agenda are quiet: they neither open nor close a body, nor count an operation or a
target.  `Pending.unfold_atomic` says all that later proofs need of them.  A quiet entry reads first and
may fail while it does; then it does one deed, which for most of them is nothing.  What it leads to is
one of few things, and the targets that it chooses are there.
-/

namespace Grimoire

variable {α : Type}

/-- Whether what a request is about has passed its static check. -/
def Work.Checked [Scalar α] (v : Vocabulary) : Work α → Prop
  | effect e => e.check v = .ok ()
  | operations _ ops => Operation.checkAll v ops = .ok ()

namespace Pending

/-- Whether an entry neither opens nor closes a body, nor counts an operation or a target. -/
def isQuiet : Pending α → Bool
  | targets (_ :: _) _ | operations _ (_ :: _) | enter .. | close _ => false
  | _ => true

def Present (w : World α) : Pending α → Prop
  | targets ids _ => ∀ id ∈ ids, w.has id = true
  | _ => True

variable [Scalar α]

/-- Whether everything in an entry has passed its static check. -/
def Checked (v : Vocabulary) : Pending α → Prop
  | weigh e _ | effect e _ | triggered _ e => e.check v = .ok ()
  | targets _ ops | operations _ ops | rounds _ _ ops => Operation.checkAll v ops = .ok ()
  | dispatch _ op => op.check v = .ok ()
  | chained _ e newTarget => e.check v = .ok () ∧ newTarget.check = .ok ()
  | enter _ inner => inner.Checked v
  | close _ => True

/-- What a quiet entry leads to. -/
inductive Leads (c : Cast α) : Pending α → List (Pending α) → Prop where
  | done (p) : Leads c p []
  | effect (e designated) : Leads c (weigh e designated) [effect e designated]
  | targets (e designated ids) : Leads c (effect e designated) [targets ids e.operations]
  | chain {effectId e} (target newTarget) (found : c.book.require effectId = .ok e) :
      Leads c (dispatch target (.chain effectId newTarget))
        [enter (.chain effectId) (chained target e newTarget)]
  | trigger {effectId e} (target) (found : c.book.require effectId = .ok e) :
      Leads c (dispatch target (.trigger effectId)) [enter (.trigger effectId) (triggered target e)]
  | accepted (target condition accepted refused) :
      Leads c (dispatch target (.conditional condition accepted refused))
        [enter .nested (operations target accepted)]
  | refused (target condition accepted ops) :
      Leads c (dispatch target (.conditional condition accepted (some ops)))
        [enter .nested (operations target ops)]
  | rounds (target times body count) :
      Leads c (dispatch target (.iterate times body)) [enter .nested (rounds target count body)]
  | round (target n body) :
      Leads c (rounds target (n + 1) body) [operations target body, rounds target n body]
  | chained (target e newTarget ids) :
      Leads c (chained target e newTarget) [targets ids e.operations]
  | triggered (target e) : Leads c (triggered target e) [operations target e.operations]

def demand? (c : Cast α) (p : Pending α) (s : Execution α) : Option (Demand α) :=
  match p with
  | dispatch target (.act action) => c.demand? target action s
  | _ => none

/-- What a quiet entry does once it has read what it needs, and what it asks a budget for. -/
inductive Deed (c : Cast α) : Pending α → Option (Demand α) → Execution α → Execution α → Prop where
  | nothing (p s) : Deed c p none s s
  | strike {target action demand s s'} (stroke : Stroke c target demand s s') :
      Deed c (dispatch target (.act action)) demand s s'
  | stop (e target s) :
      Deed c (weigh e target) none s
        { s with report := { s.report with reason := some .conditionsNotMet } }
  | request {e target q} (s) (asked : c.request? e target = some q) :
      Deed c (weigh e target) none s
        { s with report := Report.schedule q { s.report with reason := some .scheduled } }
  | delay (target ticks body count s) :
      Deed c (dispatch target (.delay ticks body)) none s
        { s with
          report := s.report.schedule
            { caster := c.caster
              target := some target
              dueTick := c.tickAfter count
              work := .operations target body } }

/-- Whether a quiet entry, with what it leads to, can take a state to another one. -/
def Does (c : Cast α) (p : Pending α) (more : List (Pending α)) (s s' : Execution α) : Prop :=
  ∃ s₁, s.Drawn s₁ ∧ p.Deed c (p.demand? c s) s₁ s' ∧ ∀ q ∈ more, q.Present s₁.world

theorem Deed.undisturbed {c : Cast α} {p : Pending α} {demand : Option (Demand α)}
    {s s' : Execution α} (h : p.Deed c demand s s') : Undisturbed s s' := by
  cases h with
  | nothing => exact .refl s
  | strike stroke => exact .of_moves Move.undisturbed stroke.moves
  | stop => exact .of_report { Report.Adds.refl s.report with }
  | request | delay =>
      exact .of_report { Report.Adds.refl s.report with scheduled := Report.prefix_push .. }

end Pending

/-! ## Targets that are chosen -/

variable [Scalar α]

namespace Selector

theorem has_of_choose {sel : Selector α} {w : World α} {aim : Aim} {ids chosen : List EntityId}
    {stream stream' : Stream} (h : sel.choose w aim ids stream = .ok chosen stream') :
    ∀ id ∈ chosen, w.has id = true := by
  induction ids generalizing stream stream' chosen with
  | nil =>
      cases h
      exact fun id listed => absurd listed List.not_mem_nil
  | cons id ids ih =>
      obtain ⟨admitted, stream₁, admits, rest⟩ := Run.ok_of_bind h
      obtain ⟨others, stream₂, chose, answer⟩ := Run.ok_of_bind rest
      cases answer
      have there := ih chose
      cases admitted with
      | false => exact there
      | true =>
          refine List.forall_mem_cons.mpr ⟨?_, there⟩
          rw [World.has_eq_isSome]
          unfold Selector.admits at admits
          cases found : w.entity? id with
          | none =>
              rw [found] at admits
              cases admits
          | some e => rfl

theorem has_of_resolve {sel : Selector α} {w : World α} {aim : Aim} {lineWidth : α}
    {ids : List EntityId} {stream stream' : Stream}
    (h : sel.resolve w aim lineWidth stream = .ok ids stream') : ∀ id ∈ ids, w.has id = true := by
  unfold Selector.resolve at h
  cases checked : sel.shape.check with
  | error fault =>
      rw [checked] at h
      cases h
  | ok =>
      rw [checked] at h
      obtain ⟨chosen, stream₁, chose, answer⟩ := Run.ok_of_bind h
      cases answer
      intro id listed
      refine has_of_choose chose id ?_
      unfold Selector.limit at listed
      split at listed
      · exact listed
      · exact List.mem_of_mem_take listed

end Selector

namespace Cast

theorem has_of_resolve {c : Cast α} {selector : Selector α} {origin : EntityId}
    {designated : Option EntityId} {s s' : Execution α} {ids : List EntityId}
    (h : c.resolve selector origin designated s = .ok ids s') :
    ∀ id ∈ ids, s'.world.has id = true := by
  have drawn := Run.Reads.drawn (reads_resolve selector origin designated) h
  rw [drawn.world]
  unfold Cast.resolve at h
  rw [Run.get_bind] at h
  dsimp only [Run.draw] at h
  split at h
  · next resolved =>
      cases h
      exact Selector.has_of_resolve resolved
  · cases h

end Cast

/-! ## Unfolding -/

theorem Selector.shape_of_check {sel : Selector α} (h : sel.check = .ok ()) :
    sel.shape.check = .ok () := (Fault.ok_of_seq h).1

theorem Effect.parts_of_check {v : Vocabulary} {e : Effect α} (h : e.check v = .ok ()) :
    e.target.check = .ok () ∧ e.timing.check = .ok () ∧
      Operation.checkAll v e.operations = .ok () := by
  have rest : (do
      e.target.check
      e.timing.check
      Operation.checkNonempty "operations" e.operations
      Operation.checkAll v e.operations) = .ok () := by
    unfold Effect.check at h
    cases named : e.id with
    | none =>
        rw [named] at h
        exact h
    | some id =>
        rw [named] at h
        exact (Fault.ok_of_seq h).2
  obtain ⟨target, rest⟩ := Fault.ok_of_seq rest
  obtain ⟨timing, rest⟩ := Fault.ok_of_seq rest
  exact ⟨target, timing, (Fault.ok_of_seq rest).2⟩

namespace Pending

open Cast Run

variable {c : Cast α} {s : Execution α}

omit [Scalar α] in
theorem present_nil (w : World α) : ∀ q ∈ ([] : List (Pending α)), q.Present w :=
  fun _ listed => absurd listed List.not_mem_nil

theorem leads_only {p : Pending α} {more : List (Pending α)} {s₁ : Execution α}
    (leads : p.Leads c more) (asks : p.demand? c s = none) (present : ∀ q ∈ more, q.Present s₁.world) :
    p.Leads c more ∧ p.Deed c (p.demand? c s) s₁ s₁ ∧ ∀ q ∈ more, q.Present s₁.world :=
  ⟨leads, asks ▸ .nothing p s₁, present⟩

omit [Scalar α] in
theorem reads_require {passed : Prop} (effectId : String) :
    (Run.check (c.book.require effectId)).Reads passed s :=
  .check fun refused => by
    rw [Spellbook.eq_unknown_of_require refused]
    exact ⟨rfl, fun _ => rfl⟩

theorem dispatch_atomic (target : EntityId) (op : Operation α) :
    ((dispatch target op).unfold c).Atomic (op.check c.settings.vocabulary = .ok ())
      (fun more s₁ s' => (dispatch target op).Leads c more ∧
        (dispatch target op).Deed c ((dispatch target op).demand? c s) s₁ s' ∧
        ∀ q ∈ more, q.Present s₁.world) s := by
  cases op with
  | act action =>
      refine ((c.strikes_perform target action s).weaken fun ok => ?_).then_pure fun stroke =>
        ⟨.done _, .strike stroke, present_nil _⟩
      rw [Operation.check] at ok
      exact ok
  | chain effectId newTarget =>
      refine .bind (reads_require effectId) fun found => ?_
      exact .pure (leads_only (.chain target newTarget (check_ok found).1) rfl
        (List.forall_mem_singleton.mpr trivial))
  | trigger effectId =>
      refine .bind (reads_require effectId) fun found => ?_
      exact .pure (leads_only (.trigger target (check_ok found).1) rfl
        (List.forall_mem_singleton.mpr trivial))
  | conditional condition accepted refused =>
      refine .bind (reads_evalBool condition) fun _ => ?_
      split
      · exact .pure (leads_only (.accepted ..) rfl (List.forall_mem_singleton.mpr trivial))
      · split
        · exact .pure (leads_only (.done _) rfl (present_nil _))
        · exact .pure (leads_only (.refused ..) rfl (List.forall_mem_singleton.mpr trivial))
  | iterate times body =>
      refine .bind (reads_evalCount _ times) fun _ => ?_
      split
      · exact .pure (leads_only (.done _) rfl (present_nil _))
      · exact .pure (leads_only (.rounds ..) rfl (List.forall_mem_singleton.mpr trivial))
  | delay ticks body =>
      refine Atomic.then_pure (R := fun _ s₁ s' => Deed c (dispatch target (.delay ticks body))
        none s₁ s') ?_ fun deed => ⟨.done _, deed, present_nil _⟩
      exact .bind (reads_evalCount _ ticks) fun _ => .of_eq rfl (.delay target ticks body _ _)

/-- A quiet entry reads, does its deed, and leads to something.  It fails for no ceiling, and for
nothing that its static check has ruled out. -/
theorem unfold_atomic {p : Pending α} (quiet : p.isQuiet = true) :
    (p.unfold c).Atomic (p.Checked c.settings.vocabulary)
      (fun more s₁ s' => p.Leads c more ∧ p.Deed c (p.demand? c s) s₁ s' ∧
        ∀ q ∈ more, q.Present s₁.world) s := by
  cases p with
  | weigh e target =>
      refine .bind (reads_conditionsHold ..) fun _ => ?_
      split
      · split
        · exact .pure (leads_only (.effect e target) rfl (List.forall_mem_singleton.mpr trivial))
        · next asked => exact .of_eq rfl ⟨.done _, .request _ asked, present_nil _⟩
      · exact .of_eq rfl ⟨.done _, .stop .., present_nil _⟩
  | effect e designated =>
      have resolves := reads_resolve (c := c) (s := s) e.target c.caster designated
      refine .bind (resolves.weaken fun ok => ?_) fun resolved => ?_
      · exact Selector.shape_of_check (Effect.parts_of_check ok).1
      · exact .pure (leads_only (.targets e designated _) rfl
          (List.forall_mem_singleton.mpr (has_of_resolve resolved)))
  | targets ids ops =>
      cases ids with
      | nil => exact .pure (leads_only (.done _) rfl (present_nil _))
      | cons => cases quiet
  | operations target ops =>
      cases ops with
      | nil => exact .pure (leads_only (.done _) rfl (present_nil _))
      | cons => cases quiet
  | dispatch target op => exact dispatch_atomic target op
  | rounds target n body =>
      cases n with
      | zero => exact .pure (leads_only (.done _) rfl (present_nil _))
      | succ n =>
          exact .pure (leads_only (.round target n body) rfl
            (List.forall_mem_cons.mpr ⟨trivial, List.forall_mem_singleton.mpr trivial⟩))
  | chained target e newTarget =>
      refine .bind (.checked (e.plain_check _) fun ok => ⟨(), ok.1⟩) fun _ => ?_
      refine .bind (reads_conditionsHold ..) fun {_ s₁} _ => ?_
      split
      · have resolves := reads_resolve (c := c) (s := s₁) newTarget target (some target)
        refine .bind (resolves.weaken fun ok => Selector.shape_of_check ok.2) fun resolved => ?_
        exact .pure (leads_only (.chained ..) rfl
          (List.forall_mem_singleton.mpr (has_of_resolve resolved)))
      · exact .pure (leads_only (.done _) rfl (present_nil _))
  | triggered target e =>
      refine .bind (.checked (e.plain_check _) fun ok => ⟨(), ok⟩) fun _ => ?_
      refine .bind (reads_conditionsHold ..) fun _ => ?_
      split
      · exact .pure (leads_only (.triggered ..) rfl (List.forall_mem_singleton.mpr trivial))
      · exact .pure (leads_only (.done _) rfl (present_nil _))
  | enter | close => cases quiet

end Pending

end Grimoire
