import Grimoire.Proofs.Call.Literal
import Grimoire.Proofs.Run.Vitality

/-! # Pools over the course of a world

A world goes on by calls, of effects and of requests, and by ticks.  If all pools are within their bounds
to begin with, they are so ever after, at every moment of a call and however it ends, as long as what is
evaluated for pools and stats is finite.  So no call meets a maximum below zero when it sets a pool.
-/

namespace Grimoire

open Run

variable {α : Type} [Scalar α]

/-- Whether the action that is taken next, if it is one, evaluates nothing but finite numbers for pools
and stats. -/
def Moment.EvaluatesFinite (c : Cast α) (m : Moment α) : Prop :=
  ∀ target action rest, m.agenda = .dispatch target (.act action) :: rest → m.fault = none →
    c.EvaluatesFinite target action m.state

/-- Whether a call evaluates nothing but finite numbers for pools and stats. -/
def Interpreter.EvaluatesFinite (i : Interpreter α) (call : Call α) (w : World α) (clock : Clock) :
    Prop :=
  ∀ n, (i.moment call w clock n).EvaluatesFinite (i.cast call.caster w clock)

/-- How a world can go on: anybody may call for anything, whatever comes of it, and time may pass. -/
inductive World.Course (w : World α) : World α → Prop where
  | start : Course w w
  | call {w'} (before : Course w w') (i : Interpreter α) (call : Call α) (clock : Clock)
      (finite : i.EvaluatesFinite call w' clock) : Course w (i.run call w' clock).2
  | advance {w'} (before : Course w w') : Course w w'.advance.2

section

variable [Scalar.Rounded α]

theorem Cast.step_healthBounded {c : Cast α} {m : Moment α} (finite : m.EvaluatesFinite c)
    (bounded : m.state.world.HealthBounded) : (c.step m).state.world.HealthBounded := by
  cases acts_of_transition (c.step_transition m) with
  | rests alike =>
      rw [alike.world]
      exact bounded
  | @strikes target action rest _ agenda running =>
      obtain ⟨_, _, s⟩ := m
      cases agenda
      cases running
      have keeps := keeps_perform (finite target action rest rfl rfl)
      cases performed : c.perform target action s with
      | ok x s' =>
          have unfolds : (Pending.dispatch target (.act action)).unfold c s = .ok [] s' :=
            bind_ok performed
          obtain ⟨s₁, drawn, kept⟩ := keeps.ok performed
          rw [step_ok rest unfolds]
          exact kept (by rw [drawn.world]; exact bounded)
      | error fault s' =>
          have unfolds : (Pending.dispatch target (.act action)).unfold c s = .error fault s' :=
            bind_error performed
          rw [step_error rest unfolds]
          rw [← (keeps.error performed).1.world] at bounded
          exact bounded

namespace Interpreter

variable {i : Interpreter α} {call : Call α} {w : World α} {clock : Clock}

theorem moment_healthBounded (finite : i.EvaluatesFinite call w clock) (bounded : w.HealthBounded)
    (n : Nat) : (i.moment call w clock n).state.world.HealthBounded := by
  induction n with
  | zero =>
      have opened := (i.opening_alike call w clock).world
      rw [i.start_world] at opened
      change (i.opening call w clock).state.world.HealthBounded
      rw [opened]
      exact bounded
  | succ n ih => exact Cast.step_healthBounded (finite n) ih

theorem run_healthBounded (finite : i.EvaluatesFinite call w clock) (bounded : w.HealthBounded) :
    (i.run call w clock).2.HealthBounded := by
  obtain ⟨last, nothing, -⟩ := i.exists_last call w clock
  rw [world_run nothing]
  exact moment_healthBounded finite bounded last

end Interpreter

theorem World.Course.healthBounded {w w' : World α} (course : w.Course w')
    (bounded : w.HealthBounded) : w'.HealthBounded := by
  induction course with
  | start => exact bounded
  | call before i call clock finite ih => exact Interpreter.run_healthBounded finite ih
  | advance before ih => exact ih.advance

/-- If all pools of a world are within their bounds, they are so in every world that calls and ticks
lead to and at every moment of a call, so that changes of pools always find a maximum that is not below
zero. Bounds that are out of order occur only in an expression that reads a number that is none. -/
theorem World.pools_bounded {w w' : World α} (bounded : w.HealthBounded) (course : w.Course w') :
    w'.HealthBounded ∧
      ∀ (i : Interpreter α) (call : Call α) (clock : Clock), i.EvaluatesFinite call w' clock → ∀ n,
        let c := i.cast call.caster w' clock
        let s := (i.moment call w' clock n).state
        s.world.HealthBounded ∧
        (∀ id h, s.world.get? id .health = some h → 0 ≤ h.max) ∧
        (∀ target stat value s', c.setStat target stat value s = .error .brokenBounds s' →
          c.ReadsNaN target s.world value) ∧
        ∀ target stat amount duration s',
          c.modifyStat target stat amount duration s = .error .brokenBounds s' →
            ∃ e ∈ amount :: duration.toList, c.ReadsNaN target s.world e := by
  have later := course.healthBounded bounded
  refine ⟨later, fun i call clock finite n => ?_⟩
  have moment := Interpreter.moment_healthBounded finite later n
  refine ⟨moment, fun id h held => ?_, fun target stat value s' failed => ?_,
    fun target stat amount duration s' failed => ?_⟩
  · obtain ⟨e, found, own⟩ := Option.bind_eq_some_iff.mp held
    exact ((moment id e found).get? own).max_nonneg
  · exact (Cast.setStat_fails_of_bounded moment value).fault failed rfl
  · exact (Cast.modifyStat_fails_of_bounded moment amount duration).fault failed rfl

end

/-! ## Calls with nothing to evaluate -/

namespace Interpreter

theorem evaluatesFinite_of_literal {i : Interpreter α} {e : Effect α}
    (literal : ∀ e', i.Knows e e' → e'.IsLiteral) (context : Context) (w : World α)
    (clock : Clock) : i.EvaluatesFinite (.execute e context) w clock := by
  intro n target action rest agenda running amount asked x s' evaluated
  have listed : Pending.dispatch target (.act action) ∈
      (i.moment (.execute e context) w clock n).agenda := by
    rw [agenda]
    exact List.mem_cons_self
  have stems := i.moment_stemsFrom e context w clock n _ listed
  obtain ⟨e', knows, part⟩ := stems _ (Operation.mem_parts _)
  have among : amount ∈ action.expressions := by
    cases action with
    | dealDamage | heal | modifyStat | setStat =>
        cases asked
        exact List.mem_cons_self
    | _ => cases asked
  obtain ⟨y, rfl, finite⟩ := (literal e' knows).operation part amount among
  rw [Cast.evalNumber_number finite] at evaluated
  cases evaluated
  exact finite

/-- An effect that lowers the maximum of its target for two ticks, and burns it. -/
def wither : Effect Float where
  target := { shape := .single }
  operations :=
    [.act (.modifyStat "maxHealth" (.number (-20)) (some (.number 2))),
      .act (.dealDamage "fire" (.number 4))]

theorem wither_literal (e : Effect Float) (knows : novice.Knows wither e) : e.IsLiteral := by
  rcases knows with rfl | ⟨id, found⟩
  · intro x listed
    have numbers : wither.expressions = [.number (-20), .number 2, .number 4] := rfl
    rw [numbers] at listed
    simp only [List.mem_cons, List.not_mem_nil, or_false] at listed
    rcases listed with rfl | rfl | rfl <;> exact ⟨_, rfl, by decide +kernel⟩
  · simp [Spellbook.get?, novice] at found

theorem duel_healthBounded : duel.HealthBounded := by
  have empty : (World.empty : World Float).HealthBounded := by
    intro id e found
    simp [World.empty, World.entity?] at found
  have whole : Health.Bounded ({ current := 30, max := 30 } : Health Float) :=
    ⟨by decide +kernel, by decide +kernel⟩
  exact ((empty.create "wizard").create "goblin").update (fun _ own => own.putHealth whole) 2

/-- The world after the effect and two ticks: the maximum is what it was before, and the pool is what was
left of it while the maximum was lower. -/
def withered : World Float :=
  (novice.run (.execute wither { caster := 1, target := some 2 }) duel .still).2.advance.2.advance.2

theorem withered_bounded :
    duel.HealthBounded ∧ duel.Course withered ∧ withered.HealthBounded ∧
      (withered.get? 2 .health).map (fun h => (h.current, h.max)) = some (6, 30) ∧
      ∀ n, (novice.moment (.execute wither { caster := 1, target := some 2 }) withered .still
        n).state.world.HealthBounded := by
  have finite (w : World Float) :=
    evaluatesFinite_of_literal wither_literal { caster := 1, target := some 2 } w .still
  have course : duel.Course withered :=
    .advance (.advance (.call .start novice _ .still (finite duel)))
  obtain ⟨bounded, moments⟩ := World.pools_bounded duel_healthBounded course
  exact ⟨duel_healthBounded, course, bounded, by decide +kernel,
    fun n => (moments novice _ .still (finite withered) n).1⟩

end Interpreter

end Grimoire
