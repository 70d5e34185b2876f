import Grimoire.Interpreter
import Grimoire.Proofs.Run.Calculus

/-! # Runs side by side

Two runs are coupled by a relation on states when, started from states that stand in it, they end in the
same way and in states that stand in it.  Whatever is put together from coupled runs is coupled.

A call is put together from a few single steps.  `Cast.Likeness` says of a relation that each of them is
coupled with itself, and then so are operations, bodies, chains and triggers, however they lie in each
other.
-/

namespace Grimoire

variable {α β γ : Type}

namespace Run

/-- Two results with the same value or the same fault, and final states related by `R`. -/
inductive Meets (R : Execution α → Execution α → Prop) :
    EStateM.Result Fault (Execution α) β → EStateM.Result Fault (Execution α) β → Prop where
  | ok {x s s'} (states : R s s') : Meets R (.ok x s) (.ok x s')
  | error {fault s s'} (states : R s s') : Meets R (.error fault s) (.error fault s')

namespace Meets

variable {R : Execution α → Execution α → Prop} {s : Execution α}
  {r : EStateM.Result Fault (Execution α) β}

theorem of_ok {x : β} (h : Meets R (.ok x s) r) : ∃ s', r = .ok x s' ∧ R s s' := by
  cases h with
  | ok states => exact ⟨_, rfl, states⟩

theorem of_error {fault : Fault} (h : Meets R (.error fault s) r) :
    ∃ s', r = .error fault s' ∧ R s s' := by
  cases h with
  | error states => exact ⟨_, rfl, states⟩

theorem of_eq {m m' : Run α β} {s s' : Execution α} {r r' : EStateM.Result Fault (Execution α) β}
    (h : m s = r) (h' : m' s' = r') (met : Meets R r r') : Meets R (m s) (m' s') := by
  rw [h, h']
  exact met

/-- Related results stay related after both runs leave the body. -/
theorem andThen {body body' : Run α β} {leave leave' : Governor α → Governor α} {s s' : Execution α}
    (met : Meets R (body s) (body' s')) (left : ∀ {t t'}, R t t' →
      R { t with governor := leave t.governor } { t' with governor := leave' t'.governor }) :
    Meets R (body.andThen leave s) (body'.andThen leave' s') := by
  cases ran : body s with
  | ok x t =>
      rw [ran] at met
      obtain ⟨t', ran', states⟩ := met.of_ok
      exact .of_eq (andThen_ok ran) (andThen_ok ran') (.ok (left states))
  | error fault t =>
      rw [ran] at met
      obtain ⟨t', ran', states⟩ := met.of_error
      exact .of_eq (andThen_error ran) (andThen_error ran') (.error (left states))

end Meets

/-- Two runs that, from states related by `R`, have the same outcome and end in related states. -/
structure Coupled (R : Execution α → Execution α → Prop) (m m' : Run α β) : Prop where
  meets : ∀ {s s'}, R s s' → Meets R (m s) (m' s')

namespace Coupled

variable {R : Execution α → Execution α → Prop}

theorem pure (x : β) : (Pure.pure x : Run α β).Coupled R (Pure.pure x) := ⟨.ok⟩

theorem throw (fault : Fault) :
    (MonadExcept.throw fault : Run α β).Coupled R (MonadExcept.throw fault) := ⟨.error⟩

theorem bind {m m' : Run α β} {k k' : β → Run α γ} (hm : m.Coupled R m')
    (hk : ∀ x, (k x).Coupled R (k' x)) : (m >>= k).Coupled R (m' >>= k') := by
  constructor
  intro s s' states
  have first := hm.meets states
  cases ran : m s with
  | ok x t =>
      rw [ran] at first
      obtain ⟨t', ran', states⟩ := first.of_ok
      rw [bind_ok ran, bind_ok ran']
      exact (hk x).meets states
  | error fault t =>
      rw [ran] at first
      obtain ⟨t', ran', states⟩ := first.of_error
      rw [bind_error ran, bind_error ran']
      exact .error states

theorem andThen {body body' : Run α β} {leave leave' : Governor α → Governor α}
    (h : body.Coupled R body') (left : ∀ {s s'}, R s s' →
      R { s with governor := leave s.governor } { s' with governor := leave' s'.governor }) :
    (body.andThen leave).Coupled R (body'.andThen leave') :=
  ⟨fun states => (h.meets states).andThen left⟩

theorem check (c : Except Fault β) : (Run.check c : Run α β).Coupled R (Run.check c) := by
  cases c with
  | ok x => exact pure x
  | error fault => exact throw fault

theorem ite {condition : Prop} [Decidable condition] {m₁ m₁' m₂ m₂' : Run α β}
    (yes : m₁.Coupled R m₁') (no : m₂.Coupled R m₂') :
    (if condition then m₁ else m₂).Coupled R (if condition then m₁' else m₂') := by
  split
  · exact yes
  · exact no

theorem times {step step' : Run α Unit} (h : step.Coupled R step') (n : Nat) :
    (Run.times n step).Coupled R (Run.times n step') := by
  induction n with
  | zero => exact pure ()
  | succ n ih => exact h.bind fun _ => ih

theorem forEach {step step' : EntityId → Run α Unit} (h : ∀ id, (step id).Coupled R (step' id))
    (ids : List EntityId) : (Run.forEach step ids).Coupled R (Run.forEach step' ids) := by
  induction ids with
  | nil => exact pure ()
  | cons id ids ih => exact (h id).bind fun _ => ih

end Coupled

end Run

open Run

variable [Scalar α]

/-! ## Calls -/

namespace Cast

/-- A relation that no single step of a call breaks. -/
structure Likeness (c : Cast α) (R : Execution α → Execution α → Prop) : Prop where
  permit : c.permit.Coupled R c.permit
  perform : ∀ target action, (c.perform target action).Coupled R (c.perform target action)
  evalBool : ∀ target e, (c.evalBool target e).Coupled R (c.evalBool target e)
  evalCount : ∀ target what e, (c.evalCount target what e).Coupled R (c.evalCount target what e)
  delay : ∀ target ticks body, (c.delay target ticks body).Coupled R (c.delay target ticks body)
  enter : ∀ b, (c.enter b).Coupled R (c.enter b)
  leave : ∀ (b : Body) {s s'}, R s s' → R { s with governor := b.leave s.governor }
    { s' with governor := b.leave s'.governor }
  enroll : ∀ target, (c.enroll target).Coupled R (c.enroll target)
  conditionsHold : ∀ target es, (c.conditionsHold target es).Coupled R (c.conditionsHold target es)
  resolve : ∀ selector origin designated,
    (c.resolve selector origin designated).Coupled R (c.resolve selector origin designated)

end Cast

/-- Chains and triggers that are coupled with themselves. -/
structure Reentry.Coupled (R : Execution α → Execution α → Prop) (re : Reentry α) : Prop where
  chain : ∀ target id newTarget, (re.chain target id newTarget).Coupled R (re.chain target id newTarget)
  trigger : ∀ target id, (re.trigger target id).Coupled R (re.trigger target id)

namespace Cast.Likeness

variable {c : Cast α} {re : Reentry α} {R : Execution α → Execution α → Prop}

theorem within (alike : c.Likeness R) (b : Body) {inner inner' : Run α Unit} (h : inner.Coupled R inner') :
    (c.within b inner).Coupled R (c.within b inner') :=
  (alike.enter b).bind fun _ => h.andThen (alike.leave b)

mutual

theorem operation (alike : c.Likeness R) (h : re.Coupled R) (target : EntityId) :
    ∀ op : Operation α, (c.runOperation re target op).Coupled R (c.runOperation re target op)
  | .act action => by
      unfold runOperation
      exact alike.permit.bind fun _ => alike.perform target action
  | .chain effectId newTarget => by
      unfold runOperation
      exact alike.permit.bind fun _ => h.chain target effectId newTarget
  | .trigger effectId => by
      unfold runOperation
      exact alike.permit.bind fun _ => h.trigger target effectId
  | .conditional condition accepted refused => by
      unfold runOperation
      refine alike.permit.bind fun _ => (alike.evalBool target condition).bind fun met => ?_
      split
      · exact alike.within .nested (operations alike h target accepted)
      · split
        · exact .pure ()
        · next ops => exact alike.within .nested (operations alike h target ops)
  | .iterate times body => by
      unfold runOperation
      refine alike.permit.bind fun _ => (alike.evalCount target _ times).bind fun count => ?_
      exact .ite (.pure ()) (alike.within .nested (.times (operations alike h target body) count))
  | .delay ticks body => by
      unfold runOperation
      exact alike.permit.bind fun _ => alike.delay target ticks body

theorem operations (alike : c.Likeness R) (h : re.Coupled R) (target : EntityId) :
    ∀ ops : List (Operation α), (c.runOperations re target ops).Coupled R (c.runOperations re target ops)
  | [] => by
      unfold runOperations
      exact .pure ()
  | op :: ops => by
      unfold runOperations
      exact (operation alike h target op).bind fun _ => operations alike h target ops

end

variable (alike : c.Likeness R)
include alike

theorem runOnTargets (h : re.Coupled R) (ops : List (Operation α)) (ids : List EntityId) :
    (c.runOnTargets re ops ids).Coupled R (c.runOnTargets re ops ids) :=
  .forEach (fun id => (alike.enroll id).bind fun _ => alike.operations h id ops) ids

/-- At every level of re-entry, chains and triggers are coupled. -/
theorem reentry (n : Nat) : (c.reentry n).Coupled R := by
  induction n with
  | zero =>
      constructor
      · exact fun _ _ _ => (Coupled.check _).bind fun _ => .throw _
      · exact fun _ _ => (Coupled.check _).bind fun _ => .throw _
  | succ n ih =>
      constructor
      · intro target id newTarget
        refine (Coupled.check _).bind fun e => alike.within (.chain id) ?_
        refine (Coupled.check _).bind fun _ => (alike.conditionsHold ..).bind fun met => ?_
        exact .ite ((alike.resolve ..).bind fun ids => alike.runOnTargets ih e.operations ids) (.pure ())
      · intro target id
        refine (Coupled.check _).bind fun e => alike.within (.trigger id) ?_
        refine (Coupled.check _).bind fun _ => (alike.conditionsHold ..).bind fun met => ?_
        exact .ite (alike.operations ih target e.operations) (.pure ())

/-- Choosing the targets of an effect and running its operations on them. -/
theorem runEffect (e : Effect α) (designated : Option EntityId) :
    (c.runEffect e designated).Coupled R (c.runEffect e designated) :=
  (alike.resolve ..).bind fun ids => alike.runOnTargets (alike.reentry _) e.operations ids

end Cast.Likeness

end Grimoire
