import Grimoire.Proofs.Call.Annals
import Grimoire.Proofs.World.Worth

/-! # Stats over the course of a world

However calls and ticks follow each other, the value of a stat is the one that the annals of the entity
determine.
-/

namespace Grimoire

variable {α : Type} [Scalar α]

theorem Character.stats_after (x : Character α) (d : Deed α) : (x.after d).stats = x.stats.after d := by
  cases d <;> rfl

namespace Interpreter

variable [Quantity.Neutral α] (i : Interpreter α) (call : Call α) (w : World α) (clock : Clock)

theorem moment_recordsStat (n : Nat) :
    (i.moment call w clock n).state.RecordsStat (i.moment call w clock (n + 1)).state := by
  cases i.moment_acts call w clock n with
  | rests alike =>
      refine .nothing ?_
      unfold Report.statChanges
      rw [alike.changes]
  | strikes agenda running drawn stroke =>
      refine (Execution.RecordsStat.stroke stroke).of_statChanges drawn.world ?_
      unfold Report.statChanges
      rw [drawn.alike.changes]

theorem moment_tells (n : Nat) :
    ∀ change ∈ (i.moment call w clock n).state.report.statChanges, ∃ k < n, Change.Tells
      (i.moment call w clock k).state.world (i.moment call w clock (k + 1)).state.world change := by
  induction n with
  | zero =>
      intro change listed
      have blank : (i.moment call w clock 0).state.report.statChanges = [] := by
        change (i.opening call w clock).state.report.statChanges = []
        unfold Report.statChanges
        rw [(i.opening_alike call w clock).changes, (i.start_blank call w).changes]
        rfl
      rw [blank] at listed
      exact absurd listed List.not_mem_nil
  | succ n ih =>
      intro change listed
      have earlier (before : change ∈ (i.moment call w clock n).state.report.statChanges) :
          ∃ k < n + 1, Change.Tells (i.moment call w clock k).state.world
            (i.moment call w clock (k + 1)).state.world change :=
        (ih change before).imp fun _ => And.imp_left Nat.lt_succ_of_lt
      cases i.moment_recordsStat call w clock n with
      | nothing same =>
          rw [same] at listed
          exact earlier listed
      | change tells recorded =>
          rw [recorded] at listed
          rcases List.mem_append.mp listed with before | new
          · exact earlier before
          · cases List.mem_singleton.mp new
            exact ⟨n, Nat.lt_succ_self n, tells⟩

end Interpreter

namespace World

/-- With exact numbers, a stat is the value of its last `setStat`, or its first value without lapsed
modifiers, plus the amounts of all later changes that last. A permanent change lasts, and a timed one
lasts at its own tick and until its expiry; before the largest tick this is the same as the expiry being
later than now. An action on one stat changes neither another stat nor the pool, and records the values
before and after it. -/
theorem stats_worth [Quantity.Neutral α] [Scalar.RoundsUp α] {value : α → ℚ} (reading : Exact value)
    {id : EntityId} {w w' : World α} {e : Entity α} {entries : List (Entry α)}
    (found : w.entity? id = some e) (fresh : ∀ m ∈ e.statBlock.modifiers, m.isLapsed w.tick = false)
    (annals : w.Annals id entries w') (_inTime : w'.tick ≤ maxTick) :
    (∃ e', w'.entity? id = some e' ∧ ∀ stat, ¬ Entity.IsPool stat →
      value (e'.statValue stat) = e.statBlock.worth value stat entries w'.tick) ∧
    (∀ entry ∈ entries, entry.tick < maxTick →
      (entry.lasts w'.tick = true ↔ ∀ t, entry.deed.expiresAt? = some t → w'.tick < t)) ∧
    ∀ (i : Interpreter α) (call : Call α) (clock : Clock),
      let moment := fun n => (i.moment call w' clock n).state.world
      (∀ n target e₁ d stat,
        (i.moment call w' clock n).deed? (i.cast call.caster w' clock) target = some d →
        d.stat? = some stat → (moment n).entity? target = some e₁ →
        ∃ e₂, (moment (n + 1)).entity? target = some e₂ ∧ e₂.get? .health = e₁.get? .health ∧
          ∀ other ≠ stat, e₂.statValue other = e₁.statValue other) ∧
      ∀ change ∈ (i.run call w' clock).1.report.statChanges,
        ∃ n, Change.Tells (moment n) (moment (n + 1)) change := by
  refine ⟨?_, fun entry listed room => ?_, fun i call clock => ⟨?_, fun change listed => ?_⟩⟩
  · obtain ⟨-, e', found', -, balanced⟩ := annals.story found
      (P := fun entries now x => ∀ stat, x.stats.Balanced e.statBlock value stat entries now)
      (fun stat => .start fresh)
      (fun {_ _ x} d balanced stat => by
        rw [x.stats_after]
        exact (balanced stat).after reading d)
      (fun _ balanced stat => (balanced stat).expire)
    refine ⟨e', found', fun stat plain => ?_⟩
    rw [e'.statValue_eq plain]
    exact (balanced stat).present
  · exact Entry.lasts_iff (annals.ahead reading.isNaN entry listed room)
  · intro n target e₁ d stat does about there
    exact ⟨e₁.does d, Interpreter.moment_does does there, e₁.get?_does_health d,
      fun other apart => e₁.statValue_does_of_ne about apart.symm⟩
  · obtain ⟨last, nothing, -⟩ := i.exists_last call w' clock
    rw [Interpreter.report_run nothing] at listed
    obtain ⟨n, -, tells⟩ := i.moment_tells call w' clock last change listed
    exact ⟨n, tells⟩

/-! ## A lesson -/

section

local instance : Scalar ℚ := rational

local instance : Quantity.Neutral ℚ := ⟨fun x => by
  change x + -(0 : ℚ) = x
  rw [neg_zero, add_zero]⟩

local instance : Scalar.RoundsUp ℚ where
  one_le_ceil {x bound} _ least nonzero pos := by
    have above : 0 < x := lt_of_le_of_ne (not_lt.mp least) (ne_of_beq_false nonzero).symm
    have one : 0 < x.ceil := Rat.lt_ceil_iff.mpr above
    have number : ¬ (x.ceil : ℚ) < 0 := not_lt.mpr (by exact_mod_cast one.le)
    change 1 ≤ (max 0 (min (bound : ℤ)
      (if (x.ceil : ℚ) < 0 then (x.ceil : ℚ).ceil else (x.ceil : ℚ).floor))).toNat
    rw [if_neg number, Rat.floor_intCast]
    omega

def tutor : Interpreter ℚ where
  settings := .standard

def sage : Entity ℚ :=
  ({ id := 1, typeName := "sage" } : Entity ℚ).put .stats { modifiers := [⟨"mana", 5, some 1⟩] }

def dell : World ℚ := (World.create .empty "sage").2.place 1 sage

/-- Strength is set after it was changed, and changed once more for a tick and a half. -/
def lesson : Call ℚ :=
  .request
    { caster := 1
      target := none
      dueTick := 0
      work := .operations 1
        [.act (.modifyStat "strength" (.number 2) none),
         .act (.setStat "strength" (.number 10)),
         .act (.modifyStat "strength" (.number 7) (some (.number 1.5))),
         .act (.modifyStat "mana" (.number 3) (some (.number 1))),
         .act (.modifyStat "mana" (.number 4) none)] }

theorem lesson_deeds : tutor.deeds lesson dell .still 1 13 =
    [.change "strength" 2 none, .set "strength" 10, .change "strength" 7 (some 2),
     .change "mana" 3 (some 1), .change "mana" 4 none] := by
  decide +kernel

/-- After one tick the initial mana and the mana for one tick have lapsed; strength is 10 + 7. -/
theorem sage_worth :
    (∀ m ∈ sage.statBlock.modifiers, m.isLapsed dell.tick = false) ∧
      ∃ e, (tutor.run lesson dell .still).2.advance.2.entity? 1 = some e ∧
        e.statValue "mana" = 4 ∧ e.statValue "strength" = 17 := by
  have fresh : ∀ m ∈ sage.statBlock.modifiers, m.isLapsed dell.tick = false := by
    decide +kernel
  have found : dell.entity? 1 = some sage := rfl
  have spared : dell.Spares 1 (tutor.run lesson dell .still).2 := .inl (by decide +kernel)
  have annals := Annals.start.run tutor lesson .still (n := 13) (by decide +kernel) spared
  rw [lesson_deeds] at annals
  obtain ⟨⟨e, found', worth⟩, -⟩ := stats_worth exact_rational found fresh annals.advance
    (by decide +kernel)
  refine ⟨fresh, e, found', ?_, ?_⟩
  · exact (worth "mana" (by decide)).trans (by decide +kernel)
  · exact (worth "strength" (by decide)).trans (by decide +kernel)

def dusk : World ℚ := { (World.create .empty "sage").2 with tick := maxTick }

def lastLesson : Call ℚ :=
  .request
    { caster := 1
      target := none
      dueTick := 0
      work := .operations 1 [.act (.modifyStat "mana" (.number 3) (some (.number 1)))] }

/-- At the largest tick the expiry is not later than now, and the amount counts. -/
theorem last_lesson_counts :
    let w' := (tutor.run lastLesson dusk .still).2
    w'.tick = maxTick ∧
      (dusk.entity? 1).map (·.statValue "mana") = some 0 ∧
      (tutor.deeds lastLesson dusk .still 1 3).filter (fun d => isAhead d.expiresAt? w'.tick) = [] ∧
      (w'.entity? 1).map (·.statValue "mana") = some 3 := by
  decide +kernel

end

end World

end Grimoire
