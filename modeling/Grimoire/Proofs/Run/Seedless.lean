import Grimoire.Proofs.Run.Indifferent

/-! # Runs that do not listen to the random stream

A run is deaf when on another stream it does the same, answers the same and fails alike, and hands on the
stream that it was given.  Whatever is put together from deaf runs is deaf, so an action is if all that
it evaluates is: the stream stands in the state, but nothing else reads or writes it.
-/

namespace Grimoire

variable {α β γ : Type}

def Execution.tuned (s : Execution α) (stream : Stream) : Execution α := { s with stream := stream }

namespace Run

def retuned (stream : Stream) :
    EStateM.Result Fault (Execution α) β → EStateM.Result Fault (Execution α) β
  | .ok x s => .ok x (s.tuned stream)
  | .error fault s => .error fault (s.tuned stream)

/-- Whether a run does the same on every stream, and leaves it. -/
structure Deaf (m : Run α β) : Prop where
  same : ∀ stream s, m (s.tuned stream) = retuned stream (m s)

end Run

def Variation.tuned (stream : Stream) : Variation α := { stream := fun _ => stream }

theorem Variation.uncounted_tuned (stream : Stream) : (tuned stream : Variation α).Uncounted :=
  ⟨rfl, rfl, rfl, rfl⟩

/-- An expression that draws nothing has the same result on every stream. -/
theorem Expr.Seedless.unmoved {e : Expr α} (seedless : e.Seedless) (other : Variation α) :
    e.Unmoved other := .inr seedless

namespace Run

namespace Deaf

theorem of_indifferent {m : Run α β} (h : ∀ stream, m.Indifferent (.tuned stream)) : m.Deaf := by
  constructor
  intro stream s
  refine ((h stream).same s).trans ?_
  cases m s <;> rfl

theorem indifferent {m : Run α β} (h : m.Deaf) (stream : Stream) : m.Indifferent (.tuned stream) := by
  constructor
  intro s
  refine (h.same stream s).trans ?_
  cases m s <;> rfl

theorem pure (x : β) : (Pure.pure x : Run α β).Deaf := of_indifferent fun _ => .pure x

theorem throw (fault : Fault) : (MonadExcept.throw fault : Run α β).Deaf :=
  of_indifferent fun _ => .throw fault

theorem bind {m : Run α β} {k : β → Run α γ} (hm : m.Deaf) (hk : ∀ x, (k x).Deaf) :
    (m >>= k).Deaf :=
  of_indifferent fun stream => (hm.indifferent stream).bind fun x => (hk x).indifferent stream

theorem get_bind {k : Execution α → Run α β} (blind : ∀ s stream, k (s.tuned stream) = k s)
    (h : ∀ s, (k s).Deaf) : (get >>= k).Deaf :=
  of_indifferent fun stream => .get_bind (fun s => blind s stream) fun s => (h s).indifferent stream

theorem modify {f : Execution α → Execution α}
    (blind : ∀ s stream, f (s.tuned stream) = (f s).tuned stream) :
    (modify f : Run α Unit).Deaf :=
  of_indifferent fun stream => .modify fun s => blind s stream

theorem note (f : Report α → Report α) : (Run.note f).Deaf := of_indifferent fun _ => .note fun _ => rfl

theorem check (c : Except Fault β) : (Run.check c : Run α β).Deaf :=
  of_indifferent fun _ => .check c

theorem ite {condition : Prop} [Decidable condition] {m m' : Run α β} (yes : m.Deaf)
    (no : m'.Deaf) : (if condition then m else m').Deaf := by
  split
  · exact yes
  · exact no

end Deaf

end Run

open Run

variable [Scalar α]

namespace Cast

variable (c : Cast α) (target : EntityId)

section

variable {e : Expr α}

theorem deaf_evalBool (seedless : e.Seedless) : (c.evalBool target e).Deaf :=
  .of_indifferent fun _ => c.indifferent_evalBool target (seedless.unmoved _)

theorem deaf_evalCount (what : String) (seedless : e.Seedless) :
    (c.evalCount target what e).Deaf :=
  .of_indifferent fun _ => c.indifferent_evalCount target what (seedless.unmoved _)

theorem deaf_delay (seedless : e.Seedless) (body : List (Operation α)) :
    (c.delay target e body).Deaf :=
  .of_indifferent fun _ =>
    c.indifferent_delay target (Variation.uncounted_tuned _) (seedless.unmoved _) body

end

/-- An action that draws no random number does not depend on the stream. -/
theorem deaf_perform {action : Action α} (seedless : ∀ e ∈ action.expressions, e.Seedless) :
    (c.perform target action).Deaf :=
  .of_indifferent fun _ => c.indifferent_perform target fun e own => (seedless e own).unmoved _

theorem deaf_conditionsHold (target : Option EntityId) {conditions : List (Expr α)}
    (seedless : ∀ e ∈ conditions, e.Seedless) : (c.conditionsHold target conditions).Deaf :=
  .of_indifferent fun _ =>
    c.indifferent_conditionsHold target fun e listed => (seedless e listed).unmoved _

theorem deaf_resolve {selector : Selector α}
    (seedless : ∀ e ∈ selector.expressions, e.Seedless) (origin : EntityId)
    (designated : Option EntityId) : (c.resolve selector origin designated).Deaf :=
  .of_indifferent fun _ =>
    c.indifferent_resolve (fun e listed => (seedless e listed).unmoved _) origin designated

omit [Scalar α] in
theorem deaf_enroll : (c.enroll target).Deaf := .of_indifferent fun _ => c.indifferent_enroll target

omit [Scalar α] in
theorem deaf_permit : c.permit.Deaf :=
  .of_indifferent fun _ => c.indifferent_permit (Variation.uncounted_tuned _)

omit [Scalar α] in
theorem deaf_enter (b : Body) : (c.enter b).Deaf :=
  .of_indifferent fun _ => c.indifferent_enter (Variation.uncounted_tuned _) b

end Cast

end Grimoire
