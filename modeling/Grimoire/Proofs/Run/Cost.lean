import Grimoire.Proofs.Number.Counting
import Grimoire.Proofs.Run.Balance
import Grimoire.Proofs.Run.Literal

/-! # What operations cost

An operation is counted once, and a repetition once and then what its body counts in every round.  If
all rounds are written out, this is known beforehand: `Operation.Costs` says what an operation costs, and
`Cast.begins_operations` that a run of it that succeeds has begun so many operations, however deep the
repetitions lie in each other.
-/

namespace Grimoire

variable {α β γ : Type}

/-! ## Runs that begin operations -/

namespace Run

/-- Whether a run that succeeds has begun so many operations. -/
structure Begins (n : Nat) (m : Run α β) : Prop where
  begun : ∀ {s s' : Execution α} {x : β}, m s = .ok x s' →
    s'.governor.begun = s.governor.begun + n

namespace Begins

variable {n k : Nat}

theorem pure (x : β) : (Pure.pure x : Run α β).Begins 0 :=
  ⟨fun ended => by cases ended; rfl⟩

theorem bind {m : Run α β} {next : β → Run α γ} (h : m.Begins n) (hn : ∀ x, (next x).Begins k) :
    (m >>= next).Begins (n + k) := by
  constructor
  intro s s' y ended
  obtain ⟨x, s₁, first, second⟩ := ok_of_bind ended
  rw [(hn x).begun second, h.begun first, Nat.add_assoc]

theorem of_calm {m : Run α β} (h : ∀ s, m.Takes Undisturbed s) : m.Begins 0 :=
  ⟨fun {s _ _} ended => (Undisturbed.of_moves id ((h s).ok ended)).begun⟩

theorem times {step : Run α Unit} (h : step.Begins k) : ∀ n, (Run.times n step).Begins (n * k)
  | 0 => by
      rw [Nat.zero_mul]
      exact pure ()
  | n + 1 => by
      rw [Nat.succ_mul, Nat.add_comm]
      exact h.bind fun _ => times h n

theorem forEach {step : EntityId → Run α Unit} (h : ∀ id, (step id).Begins k) :
    ∀ ids, (Run.forEach step ids).Begins (ids.length * k)
  | [] => by
      rw [List.length_nil, Nat.zero_mul]
      exact pure ()
  | id :: ids => by
      rw [List.length_cons, Nat.succ_mul, Nat.add_comm]
      exact (h id).bind fun _ => forEach h ids

theorem within (c : Cast α) (b : Body) {inner : Run α Unit} (h : inner.Begins n) :
    (c.within b inner).Begins n := by
  constructor
  intro s s' x ended
  obtain ⟨_, s₁, entered, inside⟩ := ok_of_bind ended
  have opened : s₁.governor.begun = s.governor.begun := by
    rcases b.admitted_or_refused c.settings.limits s.governor with room | ⟨fault, refused⟩
    · rw [Cast.enter_ok room] at entered
      cases entered
      rfl
    · rw [Cast.enter_refused refused] at entered
      cases entered
  cases ran : inner s₁ with
  | error fault s₂ =>
      rw [andThen_error ran] at inside
      cases inside
  | ok x s₂ =>
      rw [andThen_ok ran] at inside
      cases inside
      rw [← opened, ← h.begun ran]
      exact Body.leave_begun ..

end Begins

end Run

namespace Cast

open Run

variable (c : Cast α)

theorem begins_permit : c.permit.Begins 1 := by
  constructor
  intro s s' x ended
  have permits := c.permit_cases s
  rw [ended] at permits
  cases permits
  rfl

theorem begins_enroll (id : EntityId) : (c.enroll id).Begins 0 := by
  constructor
  intro s s' x ended
  have enrolls := c.enroll_cases s id
  rw [ended] at enrolls
  cases enrolls <;> rfl

end Cast

variable [Scalar α]

/-! ## Counts that are written out -/

/-- Whether an expression is a count, written out. -/
structure Expr.Counts (e : Expr α) (n : Nat) : Prop where
  literal : ∃ x, e = .number x ∧ (x == Scalar.ofNat n) = true
  most : n ≤ maxCount

theorem Cast.evalCount_counts [Scalar.Counting α] (c : Cast α) (target : EntityId) (what : String)
    {e : Expr α} {n : Nat} (counts : e.Counts n) : c.evalCount target what e = pure n := by
  obtain ⟨x, rfl, same⟩ := counts.literal
  obtain ⟨finite, whole, nonneg, read⟩ := Scalar.Counting.count_of_beq same counts.most
  funext s
  unfold evalCount
  rw [Run.get_bind, Run.bind_ok (draw_ok (Expr.evalWhole_number finite whole _)), if_neg nonneg, read]

namespace Operation

mutual

/-- What an operation costs that is no more than actions, delays and repetitions of these. -/
inductive Costs : Operation α → Nat → Prop where
  | act (action) : Costs (.act action) 1
  | delay (ticks body) : Costs (.delay ticks body) 1
  | iterate {times n body cost} (counts : times.Counts n) (round : CostsAll body cost) :
      Costs (.iterate times body) (1 + n * cost)

inductive CostsAll : List (Operation α) → Nat → Prop where
  | nil : CostsAll [] 0
  | cons {op ops cost others} (first : Costs op cost) (rest : CostsAll ops others) :
      CostsAll (op :: ops) (cost + others)

end

end Operation

/-! ## Operations -/

namespace Cast

open Run

variable {c : Cast α} {re : Reentry α}

mutual

theorem begins_operation [Scalar.Counting α] (target : EntityId) : ∀ {op : Operation α} {cost : Nat},
    op.Costs cost → (c.runOperation re target op).Begins cost
  | .act action, _, .act _ => by
      unfold runOperation
      exact c.begins_permit.bind fun _ => .of_calm fun s =>
        (perform_takes c target action s).undisturbed
  | .delay ticks body, _, .delay _ _ => by
      unfold runOperation
      exact c.begins_permit.bind fun _ => .of_calm fun s => calm_delay target ticks body
  | .iterate times body, _, @Operation.Costs.iterate _ _ _ n _ cost counts round => by
      unfold runOperation
      refine c.begins_permit.bind fun _ => ?_
      dsimp only
      rw [evalCount_counts c target "repeat.times" counts, pure_bind]
      split
      · next none =>
          rw [none, Nat.zero_mul]
          exact .pure ()
      · exact .within c .nested (.times (begins_operations target round) n)

theorem begins_operations [Scalar.Counting α] (target : EntityId) :
    ∀ {ops : List (Operation α)} {cost : Nat},
      Operation.CostsAll ops cost → (c.runOperations re target ops).Begins cost
  | [], _, .nil => by
      unfold runOperations
      exact .pure ()
  | op :: ops, _, .cons first rest => by
      unfold runOperations
      exact (begins_operation target first).bind fun _ => begins_operations target rest

end

/-- Operations that are run on every target cost as much on each of them. -/
theorem begins_runOnTargets [Scalar.Counting α] {ops : List (Operation α)} {cost : Nat}
    (costs : Operation.CostsAll ops cost) (ids : List EntityId) :
    (c.runOnTargets re ops ids).Begins (ids.length * cost) := by
  refine .forEach (fun id => ?_) ids
  have enrolled : Begins (0 + cost) (c.enroll id >>= fun _ => c.runOperations re id ops) :=
    (c.begins_enroll id).bind fun _ => begins_operations id costs
  rwa [Nat.zero_add] at enrolled

end Cast

end Grimoire
