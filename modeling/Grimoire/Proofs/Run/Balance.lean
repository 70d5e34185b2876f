import Grimoire.Proofs.Run.Frame

/-! # Runs leave bodies as they found them

Opening and closing a body are paired by hand, on four kinds of bodies, and a run may fail anywhere
inside of one.  `Cast.balanced_runOperations` says that the pairing is right: however a list of
operations ends, the governor's depths and path are what they were before.  The proof follows the
operations, and inside of it the levels of re-entry.
-/

namespace Grimoire

variable {α β γ : Type}

namespace Run

/-- The state at the end of a run, whether it succeeded or failed. -/
def last : EStateM.Result Fault (Execution α) β → Execution α
  | .ok _ s | .error _ s => s

/-- However a run ends, it leaves the governor at the place where it found it. -/
structure Balanced (m : Run α β) : Prop where
  place : ∀ s : Execution α, s.governor.SamePlace (last (m s)).governor

namespace Balanced

theorem pure (x : β) : (Pure.pure x : Run α β).Balanced := ⟨fun _ => .refl _⟩

theorem throw (fault : Fault) : (MonadExcept.throw fault : Run α β).Balanced := ⟨fun _ => .refl _⟩

theorem bind {m : Run α β} {k : β → Run α γ} (hm : m.Balanced) (hk : ∀ x, (k x).Balanced) :
    (m >>= k).Balanced := by
  constructor
  intro s
  have first := hm.place s
  cases h : m s with
  | ok x s₁ =>
      rw [h] at first
      rw [bind_ok h]
      exact first.trans ((hk x).place s₁)
  | error fault s₁ =>
      rw [h] at first
      rw [bind_error h]
      exact first

theorem of_calm {m : Run α β} (h : ∀ s, m.Takes Undisturbed s) : m.Balanced := by
  constructor
  intro s
  have calm := h s
  cases hm : m s with
  | ok x s' => exact (Undisturbed.of_moves id (calm.ok hm)).place
  | error fault s' => exact (Undisturbed.of_moves id (calm.error hm).1).place

theorem times {m : Run α Unit} (h : m.Balanced) (n : Nat) : (Run.times n m).Balanced := by
  induction n with
  | zero => exact pure ()
  | succ n ih => exact h.bind fun _ => ih

theorem forEach {step : EntityId → Run α Unit} (h : ∀ id, (step id).Balanced) (ids : List EntityId) :
    (Run.forEach step ids).Balanced := by
  induction ids with
  | nil => exact pure ()
  | cons id ids ih => exact (h id).bind fun _ => ih

theorem within (c : Cast α) (b : Body) {inner : Run α Unit} (h : inner.Balanced) :
    (c.within b inner).Balanced := by
  constructor
  intro s
  rcases b.admitted_or_refused c.settings.limits s.governor with room | ⟨fault, refused⟩
  · have inside := h.place (b.opened s)
    unfold Cast.within
    rw [bind_ok (Cast.enter_ok room)]
    cases hr : inner (b.opened s) with
    | ok x s' =>
        rw [hr] at inside
        rw [andThen_ok hr]
        exact Body.leave_opened inside
    | error fault s' =>
        rw [hr] at inside
        rw [andThen_error hr]
        exact Body.leave_opened inside
  · unfold Cast.within
    rw [bind_error (Cast.enter_refused refused)]
    exact .refl _

end Balanced

end Run

namespace Cast

open Run

variable (c : Cast α)

theorem balanced_permit : c.permit.Balanced := by
  constructor
  intro s
  have permits := c.permit_cases s
  generalize c.permit s = result at permits ⊢
  cases permits with
  | counts | overruns => exact ⟨rfl, rfl, rfl⟩
  | late => exact .refl _

theorem balanced_enroll (id : EntityId) : (c.enroll id).Balanced := by
  constructor
  intro s
  have enrolls := c.enroll_cases s id
  generalize c.enroll id s = result at enrolls ⊢
  cases enrolls with
  | known | crowded => exact .refl _
  | meets => exact ⟨rfl, rfl, rfl⟩

end Cast

/-- Chains and triggers that are balanced. -/
structure Reentry.Balanced (re : Reentry α) : Prop where
  chain : ∀ target id newTarget, (re.chain target id newTarget).Balanced
  trigger : ∀ target id, (re.trigger target id).Balanced

namespace Cast

open Run

variable [Scalar α] {c : Cast α} {re : Reentry α}

mutual

theorem balanced_operation (h : re.Balanced) (target : EntityId) :
    ∀ op : Operation α, (c.runOperation re target op).Balanced
  | .act action => by
      unfold runOperation
      exact c.balanced_permit.bind fun _ => .of_calm fun s =>
        (perform_takes c target action s).undisturbed
  | .chain effectId newTarget => by
      unfold runOperation
      exact c.balanced_permit.bind fun _ => h.chain target effectId newTarget
  | .trigger effectId => by
      unfold runOperation
      exact c.balanced_permit.bind fun _ => h.trigger target effectId
  | .conditional condition accepted refused => by
      unfold runOperation
      refine c.balanced_permit.bind fun _ => ?_
      refine (Balanced.of_calm fun s => calm_evalBool target condition).bind fun met => ?_
      split
      · exact .within c .nested (balanced_operations h target accepted)
      · split
        · exact .pure ()
        · next ops => exact .within c .nested (balanced_operations h target ops)
  | .iterate times body => by
      unfold runOperation
      refine c.balanced_permit.bind fun _ => ?_
      refine (Balanced.of_calm fun s => calm_evalCount target _ times).bind fun count => ?_
      split
      · exact .pure ()
      · exact .within c .nested (Balanced.times (balanced_operations h target body) count)
  | .delay ticks body => by
      unfold runOperation
      exact c.balanced_permit.bind fun _ => .of_calm fun s => calm_delay target ticks body

theorem balanced_operations (h : re.Balanced) (target : EntityId) :
    ∀ ops : List (Operation α), (c.runOperations re target ops).Balanced
  | [] => by
      unfold runOperations
      exact .pure ()
  | op :: ops => by
      unfold runOperations
      exact (balanced_operation h target op).bind fun _ => balanced_operations h target ops

end

theorem balanced_runOnTargets (h : re.Balanced) (ops : List (Operation α)) (ids : List EntityId) :
    (c.runOnTargets re ops ids).Balanced :=
  .forEach (fun id => (c.balanced_enroll id).bind fun _ =>
    balanced_operations h id ops) ids

/-- At every level of re-entry, chains and triggers are balanced. -/
theorem balanced_reentry (c : Cast α) (n : Nat) : (c.reentry n).Balanced := by
  have required (id : String) : (Run.check (c.book.require id) : Run α _).Balanced :=
    .of_calm fun _ => .check (c.book.plain_require id)
  have checked (e : Effect α) : (Run.check (e.check c.settings.vocabulary) : Run α _).Balanced :=
    .of_calm fun _ => .check (e.plain_check _)
  have weighed (target : EntityId) (e : Effect α) :
      (c.conditionsHold (some target) e.conditions).Balanced :=
    .of_calm fun _ => calm_conditionsHold ..
  induction n with
  | zero =>
      constructor
      · intro target id newTarget
        exact (required id).bind fun _ => .throw _
      · intro target id
        exact (required id).bind fun _ => .throw _
  | succ n ih =>
      constructor
      · intro target id newTarget
        refine (required id).bind fun e => .within c (.chain id) ?_
        refine (checked e).bind fun _ => (weighed target e).bind fun met => ?_
        split
        · refine (Balanced.of_calm fun _ => calm_resolve ..).bind fun ids => ?_
          exact balanced_runOnTargets ih e.operations ids
        · exact .pure ()
      · intro target id
        refine (required id).bind fun e => .within c (.trigger id) ?_
        refine (checked e).bind fun _ => (weighed target e).bind fun met => ?_
        split
        · exact balanced_operations ih target e.operations
        · exact .pure ()

/-- However a list of operations ends, the governor is at the place where it was. -/
theorem balanced_runOperations (c : Cast α) (n : Nat) (target : EntityId)
    (ops : List (Operation α)) : (c.runOperations (c.reentry n) target ops).Balanced :=
  balanced_operations (c.balanced_reentry n) target ops

/-- However an operation ends, the governor is at the place where it was. -/
theorem balanced_runOperation (c : Cast α) (n : Nat) (target : EntityId) (op : Operation α) :
    (c.runOperation (c.reentry n) target op).Balanced :=
  balanced_operation (c.balanced_reentry n) target op

end Cast

end Grimoire
