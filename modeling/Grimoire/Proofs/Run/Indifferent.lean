import Grimoire.Interpreter
import Grimoire.Proofs.Effect.Parts
import Grimoire.Proofs.Expression.Seedless
import Grimoire.Proofs.Run.Coupled

/-! # What a run does not notice

A state may be varied in its random stream, in the timing that its report will give, in what is counted
of operations and depth, and in what has been asked for.  A run is indifferent to a variation when on the
varied state it does the same, answers the same and fails alike, and the states that it ends in differ by
the same variation.  Whatever is put together from indifferent runs is indifferent.

Nothing reads the timing, so every run is indifferent to it.  The stream is drawn from, but only by what
is evaluated: a run is indifferent to another stream if none of its expressions draws.  Counting and
asking is not left to actions, so they are indifferent to what has been counted and asked for.
-/

namespace Grimoire

variable {α β γ : Type}

/-- A change of some fields of a state: the stream, the timing and the counters. -/
structure Variation (α : Type) where
  stream : Stream → Stream := id
  timing : Timing → Timing := id
  begun : Nat → Nat := id
  depth : Nat → Nat := id
  operations : UInt32 → UInt32 := id
  scheduled : Array (Request α) → Array (Request α) := id

namespace Variation

def governor (other : Variation α) (g : Governor α) : Governor α :=
  { g with begun := other.begun g.begun, depth := other.depth g.depth }

def report (other : Variation α) (r : Report α) : Report α :=
  { r with
    timing := other.timing r.timing
    operations := other.operations r.operations
    scheduled := other.scheduled r.scheduled }

def state (other : Variation α) (s : Execution α) : Execution α :=
  { s with
    stream := other.stream s.stream
    governor := other.governor s.governor
    report := other.report s.report }

def result (other : Variation α) :
    EStateM.Result Fault (Execution α) β → EStateM.Result Fault (Execution α) β
  | .ok x s => .ok x (other.state s)
  | .error fault s => .error fault (other.state s)

def governed (other : Variation α) :
    EStateM.Result Fault (Governor α) β → EStateM.Result Fault (Governor α) β
  | .ok x g => .ok x (other.governor g)
  | .error fault g => .error fault (other.governor g)

/-- The variation keeps the counters and the requests. -/
structure Uncounted (other : Variation α) : Prop where
  begun : other.begun = id
  depth : other.depth = id
  operations : other.operations = id
  scheduled : other.scheduled = id

namespace Uncounted

variable {other : Variation α} (uncounted : other.Uncounted)
include uncounted

theorem governor_eq (g : Governor α) : other.governor g = g := by
  unfold governor
  rw [uncounted.begun, uncounted.depth]
  rfl

theorem blind (step : Governed α β) (g : Governor α) :
    step (other.governor g) = other.governed (step g) := by
  rw [uncounted.governor_eq]
  cases step g <;> simp only [governed, uncounted.governor_eq]

end Uncounted

end Variation

/-- The expression does not depend on the stream, or the stream is not varied. -/
def Expr.Unmoved (other : Variation α) (e : Expr α) : Prop := other.stream = id ∨ e.Seedless

theorem Expr.unmoved_all {other : Variation α} {es : List (Expr α)}
    (unmoved : ∀ e ∈ es, e.Unmoved other) : other.stream = id ∨ ∀ e ∈ es, e.Seedless :=
  Classical.or_iff_not_imp_left.mpr fun moved e listed => (unmoved e listed).resolve_left moved

namespace Run

variable {other : Variation α}

/-- A run on the varied state has the varied result of the run on the state. -/
structure Indifferent (other : Variation α) (m : Run α β) : Prop where
  same : ∀ s, m (other.state s) = other.result (m s)

namespace Indifferent

theorem pure (x : β) : (Pure.pure x : Run α β).Indifferent other := ⟨fun _ => rfl⟩

theorem throw (fault : Fault) : (MonadExcept.throw fault : Run α β).Indifferent other :=
  ⟨fun _ => rfl⟩

theorem bind {m : Run α β} {k : β → Run α γ} (hm : m.Indifferent other)
    (hk : ∀ x, (k x).Indifferent other) : (m >>= k).Indifferent other := by
  constructor
  intro s
  have first := hm.same s
  cases h : m s with
  | ok x s' =>
      rw [h] at first
      rw [bind_ok first, bind_ok h]
      exact (hk x).same s'
  | error fault s' =>
      rw [h] at first
      rw [bind_error first, bind_error h]
      rfl

theorem get_bind {k : Execution α → Run α β} (blind : ∀ s, k (other.state s) = k s)
    (h : ∀ s, (k s).Indifferent other) : (get >>= k).Indifferent other := by
  constructor
  intro s
  rw [Run.get_bind, Run.get_bind, blind]
  exact (h s).same s

theorem modify {f : Execution α → Execution α} (blind : ∀ s, f (other.state s) = other.state (f s)) :
    (modify f : Run α Unit).Indifferent other := by
  constructor
  intro s
  show EStateM.Result.ok () (f (other.state s)) = .ok () (other.state (f s))
  rw [blind]

theorem note {f : Report α → Report α} (blind : ∀ r, f (other.report r) = other.report (f r)) :
    (Run.note f).Indifferent other :=
  modify fun s => congrArg (fun r => { other.state s with report := r }) (blind s.report)

theorem commit {id : EntityId} {e : Entity α} {f : Report α → Report α}
    (blind : ∀ r, f (other.report r) = other.report (f r)) : (Run.commit id e f).Indifferent other :=
  modify fun s => congrArg
    (fun r => { other.state s with world := s.world.place id e, report := r }) (blind s.report)

theorem check (c : Except Fault β) : (Run.check c : Run α β).Indifferent other := by
  cases c with
  | ok x => exact pure x
  | error fault => exact throw fault

/-- The governor may not depend on the fields that are varied. -/
theorem govern {step : Governed α β} (blind : ∀ g, step (other.governor g) = other.governed (step g)) :
    (Run.govern step).Indifferent other := by
  constructor
  intro s
  have same := blind s.governor
  cases stepped : step s.governor with
  | ok x g =>
      rw [stepped] at same
      rw [govern_ok stepped, govern_ok (s := other.state s) same]
      rfl
  | error fault g =>
      rw [stepped] at same
      rw [govern_error stepped, govern_error (s := other.state s) same]
      rfl

theorem draw {d : Draw β} (unmoved : other.stream = id ∨ d.Settled) :
    (Run.draw d : Run α β).Indifferent other := by
  constructor
  intro s
  rcases unmoved with still | ⟨answer, rfl⟩
  · obtain ⟨stream, timing, counted, depth, begun, scheduled⟩ := other
    cases still
    unfold Run.draw
    dsimp only [Variation.state, id]
    cases d s.stream <;> rfl
  · cases answer <;> rfl

theorem ite {condition : Prop} [Decidable condition] {m m' : Run α β} (yes : m.Indifferent other)
    (no : m'.Indifferent other) : (if condition then m else m').Indifferent other := by
  split
  · exact yes
  · exact no

theorem times {step : Run α Unit} (h : step.Indifferent other) (n : Nat) :
    (Run.times n step).Indifferent other := by
  induction n with
  | zero => exact pure ()
  | succ n ih => exact h.bind fun _ => ih

theorem onEntity {id : EntityId} {step : Entity α → Run α Unit}
    (h : ∀ e, (step e).Indifferent other) : (Run.onEntity id step).Indifferent other := by
  refine get_bind (fun _ => rfl) fun s => ?_
  split
  · exact pure ()
  · exact h _

theorem onSlot {id : EntityId} {slot : Slot α β} {step : Entity α → β → Run α Unit}
    (h : ∀ e x, (step e x).Indifferent other) : (Run.onSlot id slot step).Indifferent other := by
  refine onEntity fun e => ?_
  split
  · exact pure ()
  · exact h e _

end Indifferent

end Run

open Run

variable [Scalar α]

/-! ## Targets -/

theorem Filter.passes_settled (f : Filter α) (seedless : ∀ e ∈ f.predicate.toList, e.Seedless)
    (w : World α) (caster id : EntityId) (e : Entity α) : (f.passes w caster id e).Settled := by
  refine .ite ?_ (.pure false)
  cases asked : f.predicate with
  | none => exact .pure true
  | some p =>
      rw [asked] at seedless
      exact Expr.evalBool_settled (List.forall_mem_singleton.mp seedless) _

namespace Selector

variable (s : Selector α) (seedless : ∀ e ∈ s.expressions, e.Seedless)
include seedless

theorem admits_settled (w : World α) (aim : Aim) (id : EntityId) :
    (s.admits w aim id).Settled := by
  unfold admits
  cases w.entity? id with
  | none => exact .pure false
  | some e =>
      dsimp only
      unfold expressions at seedless
      cases filtered : s.filter with
      | none => exact .pure _
      | some f =>
          rw [filtered] at seedless
          exact (f.passes_settled seedless w _ id e).bind fun passes => .pure _

theorem choose_settled (w : World α) (aim : Aim) (ids : List EntityId) :
    (s.choose w aim ids).Settled := by
  induction ids with
  | nil => exact .pure []
  | cons id ids ih =>
      exact (s.admits_settled seedless w aim id).bind fun chosen => ih.bind fun others => .pure _

theorem resolve_settled (w : World α) (aim : Aim) (lineWidth : α) :
    (s.resolve w aim lineWidth).Settled := by
  unfold resolve
  split
  · exact .throw _
  · exact (s.choose_settled seedless ..).bind fun chosen => .pure _

end Selector

namespace Cast

variable (c : Cast α) (target : EntityId)

/-! ## Parameters -/

section

variable {e : Expr α}

theorem indifferent_eval (unmoved : e.Unmoved other) : (c.eval target e).Indifferent other :=
  .get_bind (fun _ => rfl) fun _ => .draw (unmoved.imp_right (Expr.eval_settled _ e))

theorem indifferent_evalNumber (unmoved : e.Unmoved other) : (c.evalNumber target e).Indifferent other :=
  .get_bind (fun _ => rfl) fun _ => .draw (unmoved.imp_right (Expr.evalNumber_settled · _))

theorem indifferent_evalBool (unmoved : e.Unmoved other) : (c.evalBool target e).Indifferent other :=
  .get_bind (fun _ => rfl) fun _ => .draw (unmoved.imp_right (Expr.evalBool_settled · _))

theorem indifferent_evalCount (what : String) (unmoved : e.Unmoved other) :
    (c.evalCount target what e).Indifferent other := by
  refine .get_bind (fun _ => rfl) fun s => ?_
  refine (Indifferent.draw (unmoved.imp_right (Expr.evalWhole_settled · _))).bind fun n => ?_
  exact .ite (.throw _) (.pure _)

theorem indifferent_expiry (what : String) {duration : Option (Expr α)}
    (unmoved : ∀ e ∈ duration.toList, e.Unmoved other) :
    (c.expiry target what duration).Indifferent other := by
  cases duration with
  | none => exact .pure none
  | some e =>
      have own := unmoved e (List.mem_singleton_self e)
      refine (c.indifferent_evalNumber target own).bind fun n => ?_
      exact .ite (.throw _) (.ite (.pure _) (.pure _))

theorem indifferent_evalPoint {p : Coordinates α} (unmoved : ∀ e ∈ p.expressions, e.Unmoved other) :
    (c.evalPoint target p).Indifferent other := by
  obtain ⟨first, second⟩ := List.forall_mem_cons.mp unmoved
  refine (c.indifferent_evalNumber target first).bind fun x => ?_
  refine (c.indifferent_evalNumber target (List.forall_mem_singleton.mp second)).bind fun y => ?_
  exact .ite (.pure _) (.throw _)

omit [Scalar α] in
theorem indifferent_casterPosition (use : Anchor) : (c.casterPosition use).Indifferent other := by
  refine .get_bind (fun _ => rfl) fun s => ?_
  split
  · exact .throw _
  · exact .pure _

theorem indifferent_checkBounds (operation : String) (p : Position α) :
    (checkBounds operation p : Run α Unit).Indifferent other :=
  .get_bind (fun _ => rfl) fun _ => .ite (.pure _) (.throw _)

end

/-! ## Actions -/

omit [Scalar α] in
theorem indifferent_changeHealth (f : Health α → Health α) : (changeHealth target f).Indifferent other :=
  .onSlot fun _ _ => .commit fun _ => rfl

theorem indifferent_restore (amount : α) : (restore target amount).Indifferent other :=
  .bind (.note fun _ => rfl) fun _ => indifferent_changeHealth ..

theorem indifferent_wound (requested : α) : (c.wound target requested).Indifferent other := by
  refine Indifferent.bind ?_ fun granted => indifferent_changeHealth ..
  refine (Indifferent.govern fun _ => rfl).bind fun granted => ?_
  exact .ite (.bind (.note fun _ => rfl) fun _ => .bind (.note fun _ => rfl) fun _ => .pure _)
    (.bind (.note fun _ => rfl) fun _ => .pure _)

theorem indifferent_setHealth (value : Health α → α) : (setHealth target value).Indifferent other := by
  refine .onSlot fun e h => ?_
  split
  · exact .throw _
  · exact .commit fun _ => rfl

theorem indifferent_moveTo (operation : String) (goal : Position α) :
    (moveTo target operation goal).Indifferent other :=
  (indifferent_checkBounds ..).bind fun _ => .onEntity fun _ => .commit fun _ => rfl

omit [Scalar α] in
theorem indifferent_spawnOne (typeName : String) (itemId : Option String) (place : Position α) :
    (spawnOne typeName itemId place).Indifferent other := by
  unfold spawnOne
  exact .modify fun _ => rfl

theorem indifferent_spawn (typeName : String) (itemId : Option String) {count : Expr α}
    {place : Option (Coordinates α)}
    (unmoved : ∀ e ∈ count :: Coordinates.expressions? place, e.Unmoved other) :
    (c.spawn target typeName itemId count place).Indifferent other := by
  obtain ⟨first, rest⟩ := List.forall_mem_cons.mp unmoved
  refine (c.indifferent_evalCount target _ first).bind fun requested => ?_
  have placed (goal : Position α) : (do
      checkBounds "spawn" goal
      let granted ← c.allotSpawns target requested
      Run.times granted (spawnOne typeName itemId goal)).Indifferent other := by
    refine (indifferent_checkBounds ..).bind fun _ => Indifferent.bind ?_ fun granted => ?_
    · refine (Indifferent.govern fun _ => rfl).bind fun granted => ?_
      exact .ite (.bind (.note fun _ => rfl) fun _ => .pure _) (.pure _)
    · exact .times (indifferent_spawnOne ..) granted
  cases place with
  | none => exact (c.indifferent_casterPosition _).bind placed
  | some place => exact (c.indifferent_evalPoint target rest).bind placed

theorem indifferent_evalPayload {payload : List (String × Expr α)}
    (unmoved : ∀ e ∈ payload.map (·.2), e.Unmoved other) :
    (c.evalPayload target payload).Indifferent other := by
  induction payload with
  | nil => exact .pure []
  | cons entry rest ih =>
      obtain ⟨first, others⟩ := List.forall_mem_cons.mp unmoved
      refine (Indifferent.check _).bind fun _ => (c.indifferent_eval target first).bind fun v => ?_
      exact (ih others).bind fun values => .pure _

omit [Scalar α] in
theorem indifferent_emit (event : Event α) : (emit event).Indifferent other := by
  constructor
  intro s
  unfold emit
  rw [Run.get_bind, Run.get_bind]
  have same : (other.state s).world.emit? event = s.world.emit? event := rfl
  rw [same]
  cases s.world.emit? event <;> rfl

/-- An action that draws no random number does not depend on the stream. -/
theorem indifferent_perform {action : Action α} (unmoved : ∀ e ∈ action.expressions, e.Unmoved other) :
    (c.perform target action).Indifferent other := by
  cases action with
  | dealDamage damageType amount =>
      refine (Indifferent.check _).bind fun _ => ?_
      refine (c.indifferent_evalNumber target (List.forall_mem_singleton.mp unmoved)).bind fun n => ?_
      exact .ite (indifferent_restore ..) (c.indifferent_wound ..)
  | heal amount =>
      refine (c.indifferent_evalNumber target (List.forall_mem_singleton.mp unmoved)).bind fun n => ?_
      exact .ite (.throw _) (indifferent_restore ..)
  | applyStatus status duration count =>
      obtain ⟨timed, counted⟩ := List.forall_mem_append.mp unmoved
      refine (Indifferent.check _).bind fun _ => ?_
      refine (c.indifferent_evalCount target _ (List.forall_mem_singleton.mp counted)).bind fun n => ?_
      refine (c.indifferent_expiry target _ timed).bind fun expiresAt => ?_
      exact .ite (.pure _) (.onEntity fun _ => .commit fun _ => rfl)
  | removeStatus status count =>
      refine (Indifferent.check _).bind fun _ => Indifferent.bind ?_ fun requested => ?_
      · cases count with
        | all => exact .pure none
        | count e =>
            exact (c.indifferent_evalNumber target (List.forall_mem_singleton.mp unmoved)).bind
              fun n => .pure _
      · refine .ite (.pure _) (.onSlot fun _ table => .commit fun r => ?_)
        split <;> rfl
  | modifyStat stat amount duration =>
      obtain ⟨first, timed⟩ := List.forall_mem_cons.mp unmoved
      refine (Indifferent.check _).bind fun _ => (c.indifferent_evalNumber target first).bind fun n => ?_
      refine (c.indifferent_expiry target _ timed).bind fun expiresAt => ?_
      refine .ite (.ite (.throw _) (indifferent_setHealth ..)) (.ite ?_ ?_)
      · exact .onSlot fun _ _ => .commit fun _ => rfl
      · exact .onEntity fun _ => .commit fun _ => rfl
  | setStat stat value =>
      refine (Indifferent.check _).bind fun _ => ?_
      refine (c.indifferent_evalNumber target (List.forall_mem_singleton.mp unmoved)).bind fun n => ?_
      refine .ite (indifferent_setHealth ..) (.ite ?_ ?_)
      · exact .onSlot fun _ _ => .commit fun _ => rfl
      · exact .onEntity fun _ => .commit fun _ => rfl
  | teleport destination =>
      exact (c.indifferent_evalPoint target unmoved).bind fun goal => indifferent_moveTo ..
  | push direction distance =>
      obtain ⟨aimed, far⟩ := List.forall_mem_append.mp unmoved
      refine (c.indifferent_evalNumber target (List.forall_mem_singleton.mp far)).bind fun distance => ?_
      refine .get_bind (fun _ => rfl) fun s => ?_
      split
      · exact .pure ()
      · refine Indifferent.bind ?_ fun unit => indifferent_moveTo ..
        cases direction with
        | none =>
            exact (c.indifferent_casterPosition _).bind fun anchor =>
              .get_bind (fun _ => rfl) fun _ => .pure _
        | some direction =>
            refine (c.indifferent_evalPoint target aimed).bind fun direction => ?_
            split
            · exact .throw _
            · exact .pure _
  | pull toward distance =>
      obtain ⟨aimed, far⟩ := List.forall_mem_append.mp unmoved
      refine (c.indifferent_evalNumber target (List.forall_mem_singleton.mp far)).bind fun distance => ?_
      refine .get_bind (fun _ => rfl) fun s => ?_
      split
      · exact .pure ()
      · refine Indifferent.bind ?_ fun anchor => ?_
        · cases toward with
          | none => exact c.indifferent_casterPosition _
          | some toward => exact c.indifferent_evalPoint target aimed
        · dsimp only
          split
          · exact .pure ()
          · exact indifferent_moveTo ..
  | spawnEntity entityType count place =>
      exact (Indifferent.check _).bind fun _ => c.indifferent_spawn target _ _ unmoved
  | spawnItem itemId count place =>
      exact (Indifferent.check _).bind fun _ => c.indifferent_spawn target _ _ unmoved
  | transformEntity toType duration =>
      refine (Indifferent.check _).bind fun _ => ?_
      refine (c.indifferent_expiry target _ unmoved).bind fun expiresAt => ?_
      exact .onEntity fun _ => .commit fun _ => rfl
  | transformMaterial source result =>
      refine (Indifferent.check _).bind fun _ => (Indifferent.check _).bind fun _ => ?_
      exact .onEntity fun _ => .ite (.commit fun _ => rfl) (.pure ())
  | emitEvent eventType payload =>
      refine (Indifferent.check _).bind fun _ => ?_
      exact (c.indifferent_evalPayload target unmoved).bind fun values => indifferent_emit _

/-! ## Conditions and targets -/

theorem indifferent_conditionsHold (target : Option EntityId) {conditions : List (Expr α)}
    (unmoved : ∀ e ∈ conditions, e.Unmoved other) :
    (c.conditionsHold target conditions).Indifferent other := by
  induction conditions with
  | nil => exact .pure true
  | cons e es ih =>
      obtain ⟨first, others⟩ := List.forall_mem_cons.mp unmoved
      refine .get_bind (fun _ => rfl) fun s => ?_
      refine (Indifferent.draw (first.imp_right (Expr.evalBool_settled · _))).bind fun holds => ?_
      exact .ite (ih others) (.pure false)

theorem indifferent_resolve {selector : Selector α}
    (unmoved : ∀ e ∈ selector.expressions, e.Unmoved other) (origin : EntityId)
    (designated : Option EntityId) : (c.resolve selector origin designated).Indifferent other :=
  .get_bind (fun _ => rfl) fun _ => .draw
    ((Expr.unmoved_all unmoved).imp_right fun seedless => selector.resolve_settled seedless ..)

/-! ## Targets -/

omit [Scalar α] in
theorem indifferent_enroll (target : EntityId) : (c.enroll target).Indifferent other := by
  have blind (g : Governor α) : Governor.enroll c.settings.limits target (other.governor g) =
      other.governed (Governor.enroll c.settings.limits target g) := by
    unfold Governor.enroll
    rw [Run.get_bind, Run.get_bind]
    have same : (other.governor g).affected = g.affected := rfl
    rw [same]
    split
    · rfl
    · unfold Governor.require
      cases c.settings.limits.entities with
      | none => rfl
      | some most =>
          rw [Run.get_bind, Run.get_bind, same]
          dsimp only
          split <;> rfl
  exact (Indifferent.govern blind).bind fun _ => .ite (.note fun _ => rfl) (.pure ())

/-! ## Counting and opening -/

section

variable {other : Variation α} (uncounted : other.Uncounted)
include uncounted

omit [Scalar α] in
theorem indifferent_permit : c.permit.Indifferent other := by
  refine (Indifferent.govern (uncounted.blind _)).bind fun _ => .note fun r => ?_
  unfold Variation.report
  rw [uncounted.operations]
  rfl

omit [Scalar α] in
theorem indifferent_enter (b : Body) : (c.enter b).Indifferent other := by
  cases b with
  | nested | trigger => exact .govern (uncounted.blind _)
  | chain => exact (Indifferent.govern (uncounted.blind _)).bind fun _ => .note fun _ => rfl

theorem indifferent_delay {ticks : Expr α} (unmoved : ticks.Unmoved other)
    (body : List (Operation α)) : (c.delay target ticks body).Indifferent other := by
  refine (c.indifferent_evalCount target _ unmoved).bind fun _ => .note fun r => ?_
  unfold Variation.report
  rw [uncounted.scheduled]
  rfl

end

end Cast

/-! ## Operations

Chains and triggers evaluate what stands in registered effects.  For a variation that leaves the stream,
nothing has to be known of them. -/

def Variation.Varies (other : Variation α) (s s' : Execution α) : Prop := s' = other.state s

namespace Run

variable {other : Variation α}

omit [Scalar α] in
theorem Indifferent.coupled {m : Run α β} (h : m.Indifferent other) : m.Coupled other.Varies m := by
  constructor
  rintro s _ rfl
  rw [h.same]
  cases m s <;> constructor <;> rfl

omit [Scalar α] in
theorem Coupled.indifferent {m : Run α β} (h : m.Coupled other.Varies m) : m.Indifferent other := by
  constructor
  intro s
  have met := h.meets (s := s) rfl
  cases ran : m s with
  | ok x t =>
      rw [ran] at met
      obtain ⟨_, ran', rfl⟩ := met.of_ok
      exact ran'
  | error fault t =>
      rw [ran] at met
      obtain ⟨_, ran', rfl⟩ := met.of_error
      exact ran'

end Run

namespace Cast

variable {other : Variation α}

theorem likeness_of_uncounted (still : other.stream = id) (uncounted : other.Uncounted) (c : Cast α) :
    c.Likeness other.Varies where
  permit := (c.indifferent_permit uncounted).coupled
  perform target _ := (c.indifferent_perform target fun _ _ => .inl still).coupled
  evalBool target _ := (c.indifferent_evalBool target (.inl still)).coupled
  evalCount target what _ := (c.indifferent_evalCount target what (.inl still)).coupled
  delay target _ body := (c.indifferent_delay target uncounted (.inl still) body).coupled
  enter b := (c.indifferent_enter uncounted b).coupled
  leave b {s s'} varies := by
    subst varies
    unfold Variation.Varies Variation.state
    rw [uncounted.governor_eq, uncounted.governor_eq]
  enroll target := (c.indifferent_enroll target).coupled
  conditionsHold target _ := (c.indifferent_conditionsHold target fun _ _ => .inl still).coupled
  resolve _ origin designated :=
    (c.indifferent_resolve (fun _ _ => .inl still) origin designated).coupled

/-- Choosing the targets of an effect and running its operations on them. -/
theorem indifferent_runEffect (still : other.stream = id) (uncounted : other.Uncounted) (c : Cast α)
    (e : Effect α) (designated : Option EntityId) : (c.runEffect e designated).Indifferent other :=
  ((c.likeness_of_uncounted still uncounted).runEffect e designated).indifferent

end Cast

end Grimoire
