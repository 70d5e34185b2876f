import Grimoire.Proofs.Call.Literal
import Grimoire.Proofs.Number.Ceiling
import Grimoire.Proofs.Run.Timed

/-! # Timed effects over the course of a world

A world goes on by calls and by ticks. Between two moments of a call either no record with an expiry
changes, or an action changes those of its target and gives a new one an expiry later than the current
tick. So an invariant of records follows from what single actions and single ticks do to them.
-/

namespace Grimoire

open Run
open Quantity (isNaN)

variable {α : Type} [Scalar α]

/-! ## Durations -/

/-- An expiry is later than now if the duration is a number and the tick is not the largest one. -/
theorem Cast.lt_endOf [Scalar.RoundsUp α] {c : Cast α} {duration : Option α}
    (least : ∀ d, duration = some d → ¬ d < 0)
    (timely : ∀ d, duration = some d → (d == 0) = false → isNaN d = false ∧ c.tick < maxTick)
    (t : Nat) (ends : c.endOf duration = some t) : c.tick < t := by
  cases duration with
  | none => cases ends
  | some d =>
      cases zero : d == 0 with
      | true => cases (endOf_zero zero).symm.trans ends
      | false =>
          obtain ⟨number, room⟩ := timely d rfl zero
          have one : 1 ≤ Scalar.ticks d :=
            Scalar.RoundsUp.one_le_ceil number (least d rfl) zero (by decide)
          cases (endOf_some zero).symm.trans ends
          exact Nat.lt_min.mpr ⟨by omega, room⟩

namespace Cast

variable {c : Cast α}

theorem step_act (target : EntityId) (action : Action α) (rest : List (Pending α)) (s : Execution α) :
    let m := c.step ⟨.dispatch target (.act action) :: rest, none, s⟩
    m.fault = none ∧ c.Treats target action s s m.state ∨
      m.fault ≠ none ∧ m.state.world = s.world := by
  have treats := c.treats_perform target action s
  cases performed : c.perform target action s with
  | ok x s' =>
      have unfolds : (Pending.dispatch target (.act action)).unfold c s = .ok [] s' :=
        bind_ok performed
      obtain ⟨s₁, drawn, least, world⟩ := treats.ok performed
      rw [step_ok rest unfolds]
      rw [drawn.world] at world
      exact .inl ⟨rfl, least, world⟩
  | error fault s' =>
      have unfolds : (Pending.dispatch target (.act action)).unfold c s = .error fault s' :=
        bind_error performed
      rw [step_error rest unfolds]
      exact .inr ⟨nofun, (treats.error performed).1.world⟩

end Cast

/-! ## Calls -/

namespace Interpreter

/-- Whether a call comes at a moment to an action on an entity. -/
structure Meets (i : Interpreter α) (call : Call α) (w : World α) (clock : Clock) (n : Nat)
    (target : EntityId) (action : Action α) : Prop where
  running : (i.moment call w clock n).fault = none
  next : ∃ rest, (i.moment call w clock n).agenda = .dispatch target (.act action) :: rest

def durationAt (i : Interpreter α) (call : Call α) (w : World α) (clock : Clock) (n : Nat)
    (target : EntityId) (action : Action α) : Option α :=
  (i.cast call.caster w clock).duration? target action (i.moment call w clock n).state

/-- Whether all durations that a call evaluates, but those that are zero, are numbers, and are evaluated
before the last tick of all. -/
def Timely (i : Interpreter α) (call : Call α) (w : World α) (clock : Clock) : Prop :=
  ∀ n target action, i.Meets call w clock n target action →
    ∀ d, i.durationAt call w clock n target action = some d → (d == 0) = false →
      isNaN d = false ∧ w.tick < maxTick

variable {i : Interpreter α} {call : Call α} {w : World α} {clock : Clock}

theorem moment_treats (n : Nat) :
    (i.moment call w clock n).state.world.Grown (i.moment call w clock (n + 1)).state.world ∨
      ∃ target action, i.Meets call w clock n target action ∧
        (i.cast call.caster w clock).Treats target action (i.moment call w clock n).state
          (i.moment call w clock n).state (i.moment call w clock (n + 1)).state := by
  have same {m m' : Moment α} (world : m'.state.world = m.state.world) :
      m.state.world.Grown m'.state.world := by
    rw [world]
    exact .refl _
  cases i.moment_acts call w clock n with
  | rests alike => exact .inl (same alike.world)
  | @strikes target action rest s₁ agenda running =>
      have acts := (i.cast call.caster w clock).step_act target action rest
        (i.moment call w clock n).state
      have now : i.moment call w clock n =
          ⟨.dispatch target (.act action) :: rest, none, (i.moment call w clock n).state⟩ := by
        rw [← agenda, ← running]
      rw [moment_succ, now]
      rcases acts with ⟨-, treats⟩ | ⟨-, world⟩
      · exact .inr ⟨target, action, ⟨running, rest, agenda⟩, treats⟩
      · exact .inl (same world)

theorem moment_zero_world : (i.moment call w clock 0).state.world = w :=
  (i.opening_alike call w clock).world.trans (i.start_world call w)

theorem moment_tick (n : Nat) : (i.moment call w clock n).state.world.tick = w.tick := by
  induction n with
  | zero => exact congrArg World.tick moment_zero_world
  | succ n ih =>
      rcases i.moment_treats n with same | ⟨target, action, -, treats⟩
      · exact same.tick.trans ih
      · exact treats.world.tick.trans ih

variable [Scalar.RoundsUp α]

theorem moment_of_treated (timely : i.Timely call w clock) {P : World α → Prop} {first : Nat}
    (grown : ∀ {w₁ w₂}, w₁.Grown w₂ → P w₁ → P w₂)
    (treated : ∀ {n target action expiresAt w₁ w₂}, first ≤ n → i.Meets call w clock n target action →
      w₁.Treated action expiresAt target w₂ → (∀ t, expiresAt = some t → w₁.tick < t) → P w₁ → P w₂)
    (start : P (i.moment call w clock first).state.world) (n : Nat) (later : first ≤ n) :
    P (i.moment call w clock n).state.world := by
  induction n, later using Nat.le_induction with
  | base => exact start
  | succ n later ih =>
      rcases i.moment_treats n with same | ⟨target, action, meets, treats⟩
      · exact grown same ih
      · refine treated later meets treats.world ?_ ih
        rw [moment_tick]
        exact Cast.lt_endOf treats.least (timely n target action meets)

theorem run_lasting (timely : i.Timely call w clock) (lasting : w.Lasting) :
    (i.run call w clock).2.Lasting := by
  obtain ⟨last, nothing, -⟩ := i.exists_last call w clock
  have moments := moment_of_treated timely (P := World.Lasting)
    (fun grown lasting => grown.lasting lasting)
    (fun _ _ treated ahead lasting => treated.lasting lasting ahead)
    (by rw [moment_zero_world]; exact lasting)
  rw [world_run nothing]
  exact moments last (Nat.zero_le _)

end Interpreter

/-! ## Worlds -/

/-- A later world, by ticks and by calls whose actions are all allowed and whose ends are in time. -/
inductive World.Passes (may : EntityId → Action α → Prop) (w : World α) : World α → Prop where
  | start : Passes may w w
  | call {w'} (before : Passes may w w') (i : Interpreter α) (call : Call α) (clock : Clock)
      (timely : i.Timely call w' clock)
      (allowed : ∀ n target action, i.Meets call w' clock n target action → may target action) :
      Passes may w (i.run call w' clock).2
  | advance {w'} (before : Passes may w w') : Passes may w w'.advance.2

namespace World

variable {may : EntityId → Action α → Prop} {w w' : World α}

theorem Passes.numbered (passes : w.Passes may w') (numbered : w.Numbered) : w'.Numbered := by
  induction passes with
  | start => exact numbered
  | call before i call clock timely allowed ih =>
      obtain ⟨last, nothing, -⟩ := i.exists_last call _ clock
      rw [Interpreter.world_run nothing]
      exact i.moment_numbered call _ clock ih last
  | advance before ih => exact ih.advance

variable [Scalar.RoundsUp α]

theorem Passes.lasting (passes : w.Passes may w') (lasting : w.Lasting) : w'.Lasting := by
  induction passes with
  | start => exact lasting
  | call before i call clock timely allowed ih => exact Interpreter.run_lasting timely ih
  | advance before => exact World.lasting_advance _

end World

/-! ## An effect for two ticks and a half -/

namespace Interpreter

def goblin : Entity Float := { id := 2, typeName := "goblin" }

theorem duel_eq : duel = ((World.create .empty "wizard").2.create "goblin").2.place 2
    (goblin.put .health { current := 30, max := 30 }) := rfl

theorem duel_numbered : duel.Numbered := by
  rw [duel_eq]
  exact ((World.Numbered.empty.spawn _).spawn _).place rfl (by decide +kernel)

end Interpreter

end Grimoire
