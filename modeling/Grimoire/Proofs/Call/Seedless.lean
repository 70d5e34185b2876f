import Grimoire.Proofs.Call.Literal
import Grimoire.Proofs.Call.Relaxing
import Grimoire.Proofs.Call.Validity
import Grimoire.Proofs.Run.Seedless

/-! # Randomness is the only use of the seed

A call is seeded, by itself or by the settings, and the seed becomes a random stream.  If nothing in the
call or in the spellbook calls a function that draws, all that a call does is deaf to the stream: two
calls with different seeds go through the same moments, but for the stream itself.
-/

namespace Grimoire

variable {α : Type}

/-! ## Other seeds -/

/-- The same interpreter with another seed in its settings. -/
def Interpreter.reseeded (i : Interpreter α) (seed : UInt64) : Interpreter α :=
  { i with settings := { i.settings with seed := seed } }

/-- The same call with a seed of its own, or without one.  A request never has one. -/
def Call.reseeded (seed : Option UInt64) : Call α → Call α
  | execute e context => execute e { context with seed := seed }
  | request q => request q

/-! ## Expressions that are ever evaluated -/

def Call.expressions : Call α → List (Expr α)
  | execute e _ => e.expressions
  | request q =>
    match q.work with
    | .effect e => e.expressions
    | .operations _ ops => (Operation.partsAll ops).flatMap Operation.expressions

/-- Whether no expression of an effect calls a function that draws. -/
def Effect.Seedless (e : Effect α) : Prop := ∀ x ∈ e.expressions, x.Seedless

/-- Whether no expression of a call or of a registered effect calls a function that draws. -/
structure Interpreter.Seedless (i : Interpreter α) (call : Call α) : Prop where
  call : ∀ x ∈ call.expressions, x.Seedless
  book : ∀ id e, i.book.get? id = some e → e.Seedless

theorem Operation.IsPartOf.seedless {op : Operation α} (part : op.IsPartOf Effect.Seedless) :
    ∀ x ∈ op.expressions, x.Seedless := by
  obtain ⟨e, seedless, listed⟩ := part
  intro x own
  exact seedless x (List.mem_append_right _ (List.mem_flatMap.mpr ⟨op, listed, own⟩))

namespace Effect.Seedless

variable {e : Effect α} (seedless : e.Seedless)
include seedless

theorem selector : ∀ x ∈ e.target.expressions, x.Seedless :=
  fun x listed => seedless x (List.mem_append_left _ (List.mem_append_left _ listed))

theorem conditions : ∀ x ∈ e.conditions, x.Seedless :=
  fun x listed => seedless x (List.mem_append_left _ (List.mem_append_right _ listed))

end Effect.Seedless

open Run

/-! ## Entries -/

variable [Scalar α]

theorem Pending.deaf_unfold (c : Cast α) {p : Pending α} (stems : p.StemsFrom Effect.Seedless) :
    (p.unfold c).Deaf := by
  cases p with
  | weigh e target =>
      refine (c.deaf_conditionsHold target stems.conditions).bind fun met => ?_
      refine .ite ?_ ((Deaf.note _).bind fun _ => .pure [])
      split
      · exact .pure _
      · exact (Deaf.note _).bind fun _ => (Deaf.note _).bind fun _ => .pure []
  | effect e designated =>
      exact (c.deaf_resolve stems.selector ..).bind fun ids => .pure _
  | targets ids ops =>
      cases ids with
      | nil => exact .pure []
      | cons id ids => exact (c.deaf_enroll id).bind fun _ => .pure _
  | operations target ops =>
      cases ops with
      | nil => exact .pure []
      | cons op ops => exact c.deaf_permit.bind fun _ => .pure _
  | dispatch target op =>
      have own := (stems op (Operation.mem_parts op)).seedless
      cases op with
      | act action => exact (c.deaf_perform target own).bind fun _ => .pure []
      | chain | trigger => exact (Deaf.check _).bind fun e => .pure _
      | conditional condition accepted refused =>
          refine (c.deaf_evalBool target (own condition List.mem_cons_self)).bind fun met => ?_
          refine .ite (.pure _) ?_
          cases refused <;> exact .pure _
      | iterate times body =>
          exact (c.deaf_evalCount target _ (own times List.mem_cons_self)).bind fun count =>
            .ite (.pure []) (.pure _)
      | delay ticks body =>
          exact (c.deaf_delay target (own ticks List.mem_cons_self) body).bind fun _ => .pure []
  | rounds target n body => cases n <;> exact .pure _
  | chained target e newTarget =>
      obtain ⟨seedless, id, part⟩ := stems
      refine (Deaf.check _).bind fun _ => ?_
      refine (c.deaf_conditionsHold _ seedless.conditions).bind fun met => .ite ?_ (.pure [])
      exact (c.deaf_resolve part.seedless ..).bind fun ids => .pure _
  | triggered target e =>
      refine (Deaf.check _).bind fun _ => ?_
      exact (c.deaf_conditionsHold _ stems.conditions).bind fun met => .ite (.pure _) (.pure [])
  | enter b inner => exact (c.deaf_enter b).bind fun _ => .pure _
  | close b => exact (Deaf.modify fun _ _ => rfl).bind fun _ => .pure []

theorem Call.deaf_prepare (c : Cast α) (call : Call α) : (call.prepare c).Deaf := by
  have begins (e : Effect α) : (Cast.begin e).Deaf := by
    unfold Cast.begin
    split
    · exact .pure ()
    · exact .modify fun _ _ => rfl
  have begun (e : Effect α) (p : Pending α) : (do Cast.begin e; pure [p] : Run α _).Deaf :=
    (begins e).bind fun _ => .pure _
  have stopped (reason : Reason) : (do Cast.stop reason; pure [] : Run α (List (Pending α))).Deaf :=
    (Deaf.note _).bind fun _ => .pure []
  cases call with
  | execute e context =>
      refine (Deaf.check _).bind fun _ => Deaf.get_bind (fun _ _ => rfl) fun s => ?_
      exact .ite ((Deaf.throw _).bind fun _ => begun ..) (begun ..)
  | request q =>
      cases work : q.work with
      | effect e =>
          simp only [prepare, work]
          refine (Deaf.check _).bind fun _ => Deaf.get_bind (fun _ _ => rfl) fun s => ?_
          exact .ite (begun ..) (stopped _)
      | operations target ops =>
          simp only [prepare, work]
          exact Deaf.get_bind (fun _ _ => rfl) fun s => .ite (.pure _) (stopped _)

/-! ## Moments -/

namespace Moment

def tuned (m : Moment α) (stream : Stream) : Moment α := { m with state := m.state.tuned stream }

omit [Scalar α] in
theorem finish_tuned (m : Moment α) (stream : Stream) :
    Interpreter.finish (m.tuned stream).result = Interpreter.finish m.result := by
  obtain ⟨agenda, fault, s⟩ := m
  cases fault <;> rfl

end Moment

namespace Cast

variable (c : Cast α) (seed : UInt64)

def reseeded (c : Cast α) (seed : UInt64) : Cast α :=
  { c with settings := { c.settings with seed := seed } }

theorem unfold_reseeded (p : Pending α) : p.unfold (c.reseeded seed) = p.unfold c := by
  have alike : c.Alike (c.reseeded seed) := ⟨rfl, rfl, rfl, rfl, rfl, rfl, rfl⟩
  cases quiet : p.isQuiet with
  | true => exact unfold_congr alike quiet
  | false =>
      cases p with
      | targets ids ops => cases ids <;> rfl
      | operations target ops => cases ops <;> rfl
      | enter b inner => cases b <;> rfl
      | close => rfl
      | _ => cases quiet

variable {c} in
theorem step_tuned {m : Moment α} (stems : ∀ p ∈ m.agenda, p.StemsFrom Effect.Seedless)
    (stream : Stream) : (c.reseeded seed).step (m.tuned stream) = (c.step m).tuned stream := by
  obtain ⟨agenda, fault, s⟩ := m
  cases agenda with
  | nil => rfl
  | cons p rest =>
      cases fault with
      | some fault => cases p <;> rfl
      | none =>
          have deaf := (Pending.deaf_unfold c (stems p List.mem_cons_self)).same stream s
          rw [← c.unfold_reseeded seed] at deaf
          cases unfolds : p.unfold c s with
          | ok more s' =>
              rw [unfold_reseeded, unfolds] at deaf
              rw [step_ok rest unfolds]
              exact step_ok rest ((congrFun (c.unfold_reseeded seed p) _).trans deaf)
          | error fault s' =>
              rw [unfold_reseeded, unfolds] at deaf
              rw [step_error rest unfolds]
              exact step_error rest ((congrFun (c.unfold_reseeded seed p) _).trans deaf)

end Cast

/-! ## Calls -/

namespace Interpreter

variable {i : Interpreter α} {call : Call α}

theorem moment_seedless (seedless : i.Seedless call) (w : World α) (clock : Clock) (n : Nat) :
    ∀ p ∈ (i.moment call w clock n).agenda, p.StemsFrom Effect.Seedless := by
  refine moment_inherited (Pending.inherited_stemsFrom seedless.book) ?_ n
  have own := seedless.call
  have opening := i.opening_cases call w clock
  generalize i.opening call w clock = m at opening
  cases opening with
  | refused | stopped => exact fun p listed => absurd listed List.not_mem_nil
  | ready prepared =>
      cases prepared with
      | cast e context => exact List.forall_mem_singleton.mpr own
      | @effect q e work =>
          unfold Call.expressions at own
          simp only [work] at own
          exact List.forall_mem_singleton.mpr own
      | @operations q target ops work =>
          unfold Call.expressions at own
          simp only [work] at own
          let body : Effect α := { target := { shape := .self }, operations := ops }
          have whole : body.Seedless := own
          exact List.forall_mem_singleton.mpr fun part listed => ⟨body, whole, listed⟩

variable (i call)

theorem opening_reseeded (seed : UInt64) (own : Option UInt64) (w : World α) (clock : Clock) :
    ∃ stream, (i.reseeded seed).opening (call.reseeded own) w clock =
      (i.opening call w clock).tuned stream := by
  have deaf := call.deaf_prepare (i.cast call.caster w clock)
  have started : ∃ stream, (i.reseeded seed).start (call.reseeded own) w =
      (i.start call w).tuned stream := by
    cases call <;> exact ⟨_, rfl⟩
  have prepared : (call.reseeded own).prepare
      ((i.reseeded seed).cast (call.reseeded own).caster w clock) =
        call.prepare (i.cast call.caster w clock) := by
    cases call <;> rfl
  obtain ⟨stream, started⟩ := started
  refine ⟨stream, ?_⟩
  have same := deaf.same stream (i.start call w)
  rw [← prepared, ← started] at same
  cases began : call.prepare (i.cast call.caster w clock) (i.start call w) with
  | ok agenda s =>
      rw [prepared, began] at same
      rw [opening_of_ok began]
      exact opening_of_ok ((congrFun prepared _).trans same)
  | error fault s =>
      rw [prepared, began] at same
      rw [opening_of_error began]
      exact opening_of_error ((congrFun prepared _).trans same)

variable {i call}

theorem moment_reseeded (seedless : i.Seedless call) (seed : UInt64) (own : Option UInt64)
    (w : World α) (clock : Clock) :
    ∃ stream, ∀ n, (i.reseeded seed).moment (call.reseeded own) w clock n =
      (i.moment call w clock n).tuned stream := by
  obtain ⟨stream, opened⟩ := i.opening_reseeded call seed own w clock
  refine ⟨stream, fun n => ?_⟩
  have cast : (i.reseeded seed).cast (call.reseeded own).caster w clock =
      (i.cast call.caster w clock).reseeded seed := by
    cases call <;> rfl
  induction n with
  | zero => exact opened
  | succ n ih =>
      rw [moment_succ, moment_succ, ih, cast]
      exact Cast.step_tuned seed (moment_seedless seedless w clock n) stream

/-- The seed is used for randomness only. An expression without random functions has the same result on
every stream and leaves the stream unchanged. If no effect in reach of a call has such an expression,
its outcome, report and world are the same for every seed, whether from the settings or from the
context. -/
theorem seed_unused :
    (∀ (b : Bindings α) (x : Expr α), x.Seedless → ∃ answer : Except Fault (Value α),
      ∀ stream, x.eval b stream = match answer with
        | .ok v => .ok v stream
        | .error fault => .error fault stream) ∧
    ∀ (i : Interpreter α) (call : Call α), i.Seedless call → ∀ (w : World α) (clock : Clock)
      (seed : UInt64) (own : Option UInt64),
        (i.reseeded seed).run (call.reseeded own) w clock = i.run call w clock := by
  constructor
  · intro b x seedless
    obtain ⟨answer, settled⟩ := Expr.eval_settled b x seedless
    refine ⟨answer, fun stream => ?_⟩
    rw [settled]
    cases answer <;> rfl
  · intro i call seedless w clock seed own
    obtain ⟨last, nothing, -⟩ := i.exists_last call w clock
    obtain ⟨stream, moments⟩ := moment_reseeded seedless seed own w clock
    have nothing' : ((i.reseeded seed).moment (call.reseeded own) w clock last).agenda = [] := by
      rw [moments]
      exact nothing
    rw [run_eq_of_last nothing, run_eq_of_last nothing', moments]
    exact Moment.finish_tuned _ stream

/-! ## A call that draws nothing -/

/-- An effect that damages as much as it computes, and then triggers another one. -/
def cinder : Effect Float where
  target := { shape := .single }
  conditions := [.unary .not (.call "has_status" [.path ⟨"target", .entity .target .reference⟩, .text "wet"])]
  operations :=
    [.act (.dealDamage "fire" (.call "max" [.number 3, .call "floor" [.number 5]])),
     .trigger "ember"]

theorem cinder_seedless (context : Context) : apprentice.Seedless (.execute cinder context) := by
  constructor
  · intro x listed
    have expressions : cinder.expressions = [
        .unary .not (.call "has_status"
          [.path ⟨"target", .entity .target .reference⟩, .text "wet"]),
        .call "max" [.number 3, .call "floor" [.number 5]]] := rfl
    change x ∈ cinder.expressions at listed
    rw [expressions] at listed
    simp only [List.mem_cons, List.not_mem_nil, or_false] at listed
    rcases listed with rfl | rfl <;>
      simp [Expr.Seedless, Expr.calls, Expr.callsAll, Function.drawing, Function.name]
  · intro id e found
    have own : e = ember := by
      simp only [Spellbook.get?, apprentice, Std.ExtTreeMap.getElem?_insert] at found
      split at found
      · cases found
        rfl
      · simp at found
    subst own
    intro x listed
    have expressions : ember.expressions = [.binary .sub (.number 0) (.number 1)] := rfl
    rw [expressions, List.mem_singleton] at listed
    subst listed
    simp [Expr.Seedless, Expr.calls]

/-- The call deals its damage and fails in the effect it triggers, under every seed. -/
theorem cinder_unseeded :
    apprentice.Seedless (.execute cinder { caster := 1, target := some 2 }) ∧
      ((apprentice.run (.execute cinder { caster := 1, target := some 2 }) duel
        .still).1.report.damageDealt == 5) = true ∧
      ∀ (seed : UInt64) (own : Option UInt64),
        (apprentice.reseeded seed).run
            (.execute cinder { caster := 1, target := some 2, seed := own }) duel .still =
          apprentice.run (.execute cinder { caster := 1, target := some 2 }) duel .still := by
  have seedless := cinder_seedless { caster := 1, target := some 2 }
  refine ⟨seedless, by decide +kernel, fun seed own => ?_⟩
  exact (@seed_unused Float _).2 apprentice _ seedless duel .still seed own

end Interpreter

end Grimoire
