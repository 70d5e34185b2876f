import Grimoire.Proofs.Run.Ceilings
import Grimoire.Proofs.Run.Strikes

/-! # Leaves happen wholly or not at all

A call that fails keeps what it has done. An action or a delay that fails has done nothing: it has been
counted by then, and it may have drawn random numbers.
-/

namespace Grimoire

variable {α : Type}

/-- Whether an operation runs no other operations: neither those in its body nor those of an effect. -/
def Operation.isLeaf : Operation α → Bool
  | chain .. | trigger .. | conditional .. | iterate .. => false
  | act .. | delay .. => true

/-- Whether nothing was done between two states.  One operation may have been counted, and random
numbers may have been drawn. -/
structure Execution.Untouched (s s' : Execution α) : Prop where
  world : s'.world = s.world
  report : ∃ n ≤ 1, s'.report = { s.report with operations := s.report.operations + n }
  governor : ∃ n ≤ 1, s'.governor = { s.governor with begun := s.governor.begun + n }

namespace Execution

variable {s s₁ s' : Execution α}

theorem Untouched.refl (s : Execution α) : s.Untouched s where
  world := rfl
  report := ⟨0, by decide, by rw [UInt32.add_zero]⟩
  governor := ⟨0, Nat.zero_le 1, rfl⟩

theorem Untouched.overrun (s : Execution α) : s.Untouched s.overrun where
  world := rfl
  report := (refl s).report
  governor := ⟨1, Nat.le_refl 1, rfl⟩

theorem Untouched.count (s : Execution α) : s.Untouched s.count where
  world := rfl
  report := ⟨1, by decide, rfl⟩
  governor := ⟨1, Nat.le_refl 1, rfl⟩

theorem Untouched.drawn (h : s.Untouched s₁) (drawn : s₁.Drawn s') : s.Untouched s' where
  world := drawn.world.trans h.world
  report := by
    rw [drawn.report]
    exact h.report
  governor := by
    rw [drawn.governor]
    exact h.governor

/-- The counters of damage, spawns and targets are as before. -/
theorem Untouched.counters (h : s.Untouched s') :
    s'.governor.damage = s.governor.damage ∧ s'.governor.spawns = s.governor.spawns ∧
      s'.governor.affected = s.governor.affected := by
  obtain ⟨n, -, governor⟩ := h.governor
  rw [governor]
  exact ⟨rfl, rfl, rfl⟩

end Execution

open Run

variable [Scalar α]

namespace Cast

variable {c : Cast α} {re : Reentry α} {target : EntityId} {s s' : Execution α} {fault : Fault}

theorem drawn_of_delay_error {ticks : Expr α} {body : List (Operation α)}
    (failed : c.delay target ticks body s = .error fault s') : s.Drawn s' := by
  have reads : (c.evalCount target "delay.ticks" ticks).Reads False s := reads_evalCount ..
  unfold delay at failed
  cases evaluated : c.evalCount target "delay.ticks" ticks s with
  | ok n s₁ =>
      rw [bind_ok evaluated] at failed
      cases failed
  | error raised s₁ =>
      rw [bind_error evaluated] at failed
      cases failed
      exact (reads.error evaluated).1

theorem runOperation_error {op : Operation α} (leaf : op.isLeaf = true)
    (failed : c.runOperation re target op s = .error fault s') : s.Untouched s' := by
  unfold runOperation at failed
  have permitted := c.permit_cases s
  revert permitted
  cases run : c.permit s with
  | error refusal s₁ =>
      rw [bind_error run] at failed
      cases failed
      intro permitted
      cases permitted with
      | overruns => exact .overrun s
      | late => exact .refl s
  | ok _ s₁ =>
      rw [bind_ok run] at failed
      intro permitted
      cases permitted with
      | counts =>
          have counted := Execution.Untouched.count s
          cases op with
          | act action => exact counted.drawn ((c.strikes_perform target action _).error failed).1
          | delay ticks body => exact counted.drawn (drawn_of_delay_error failed)
          | chain | trigger | conditional | iterate => cases leaf

/-- An action or delay that fails leaves the world unchanged. At most one operation more is counted, and
no damage, spawn or target. -/
theorem failing_leaf_changes_nothing {op : Operation α} (leaf : op.isLeaf = true)
    (failed : c.runOperation re target op s = .error fault s') :
    s'.world = s.world ∧
    (∃ n ≤ 1, s'.report = { s.report with operations := s.report.operations + n }) ∧
    s'.governor.damage = s.governor.damage ∧
    s'.governor.spawns = s.governor.spawns ∧
    s'.governor.affected = s.governor.affected := by
  have untouched := runOperation_error leaf failed
  exact ⟨untouched.world, untouched.report, untouched.counters⟩

end Cast

/-! ## A voice that nobody hears -/

namespace Execution

def muted : Execution Float where
  world := (World.create { World.empty with eventCapacity := some 0 } "wizard").2
  stream := Stream.ofSeed 1
  governor := .start
  report := .start none .immediate

end Execution

namespace Cast

def crier : Cast Float where
  settings := .standard
  book := {}
  caster := 1
  tick := 0

/-- The event is rejected, the operation is counted, and the world is unchanged. -/
theorem cry_changes_nothing :
    let cry : Operation Float := .act (.emitEvent "cry" ∅)
    cry.isLeaf = true ∧ ∃ s',
      crier.runOperation crier.outermost 1 cry .muted = .error (.eventRejected "cry") s' ∧
      s'.world = Execution.muted.world ∧ s'.governor.damage = 0 ∧ s'.report.operations = 1 := by
  have failed : crier.runOperation crier.outermost 1 (.act (.emitEvent "cry" ∅)) .muted =
      .error (.eventRejected "cry") Execution.muted.count := rfl
  obtain ⟨world, -, damage, -, -⟩ := failing_leaf_changes_nothing rfl failed
  exact ⟨rfl, _, failed, world, damage, rfl⟩

end Cast

end Grimoire
