import Grimoire.Proofs.Call.Deferral

/-! # When a request is due

`Request.isDueAt` decides for one tick whether a request is due, from the distance to the first tick;
`Request.dueTicks` lists all ticks. Both agree, and the list is ascending, as long as there is one: a
list has no more than `maxListed` entries.

A periodic effect requests one run at the end of every interval that fits into its duration.
-/

namespace Grimoire

open Run

variable {α : Type}

/-! ## Periods -/

section

variable {first last period : Nat}

@[simp] theorem length_ticksFrom (count : Nat) : (ticksFrom first period count).length = count := by
  rw [ticksFrom, List.length_map, List.length_range]

theorem mem_ticksFrom (pos : 0 < period) (tick : Nat) :
    tick ∈ ticksFrom first period (periodicCount first last period) ↔
      first ≤ tick ∧ tick ≤ last ∧ (tick - first) % period = 0 := by
  rw [ticksFrom, List.mem_map]
  unfold periodicCount
  split
  · next out =>
      refine iff_of_false ?_ ?_
      · rintro ⟨n, none, -⟩
        exact absurd none List.not_mem_nil
      · rintro ⟨after, before, -⟩
        omega
  · next ordered =>
      constructor
      · rintro ⟨n, listed, rfl⟩
        rw [List.mem_range, Nat.lt_succ_iff, Nat.le_div_iff_mul_le pos] at listed
        refine ⟨Nat.le_add_right .., by omega, ?_⟩
        rw [Nat.add_sub_cancel_left, Nat.mul_mod_left]
      · rintro ⟨after, before, whole⟩
        have periods : (tick - first) / period * period = tick - first :=
          Nat.div_mul_cancel (Nat.dvd_of_mod_eq_zero whole)
        refine ⟨(tick - first) / period, ?_, by omega⟩
        rw [List.mem_range, Nat.lt_succ_iff]
        exact Nat.div_le_div_right (Nat.sub_le_sub_right before first)

theorem pairwise_ticksFrom (pos : 0 < period) (count : Nat) :
    (ticksFrom first period count).Pairwise (· < ·) := by
  refine List.pairwise_map.mpr (List.pairwise_lt_range.imp fun {m n} less => ?_)
  have apart : m * period < n * period := Nat.mul_lt_mul_of_pos_right less pos
  omega

/-- From one interval after a start to the end of a duration, there are as many ticks as intervals fit
into the duration. -/
theorem periodicCount_of_start {interval duration : Nat} (pos : 0 < interval)
    (fits : interval ≤ duration) (start : Nat) :
    periodicCount (start + interval) (start + duration) interval = duration / interval := by
  have ordered : ¬ start + duration < start + interval := by omega
  rw [periodicCount, if_neg ordered, Nat.add_sub_add_left, ← Nat.div_eq_sub_div pos fits]

theorem ticksFrom_of_start (interval start count : Nat) :
    ticksFrom (start + interval) interval count =
      (List.range count).map fun n => start + (n + 1) * interval := by
  refine List.map_congr_left fun n _ => ?_
  rw [Nat.add_one_mul]
  omega

end

namespace Request

def schedule (q : Request α) : List Nat :=
  match q.period, q.lastTick with
  | some period, some last =>
    if 0 < period then ticksFrom q.dueTick period (periodicCount q.dueTick last period) else [q.dueTick]
  | _, _ => [q.dueTick]

theorem schedule_cases (q : Request α) :
    (∃ period last, 0 < period ∧ q.lastTick = some last ∧
      q.schedule = ticksFrom q.dueTick period (periodicCount q.dueTick last period) ∧
      q.dueTicks = periodicTicks q.dueTick last period ∧
      ∀ tick, q.isDueAt tick = true ↔
        q.dueTick ≤ tick ∧ tick ≤ last ∧ (tick - q.dueTick) % period = 0) ∨
      q.schedule = [q.dueTick] ∧ q.dueTicks = some [q.dueTick] ∧
        ∀ tick, q.isDueAt tick = true ↔ tick = q.dueTick := by
  unfold schedule dueTicks isDueAt
  cases q.period with
  | none => exact .inr ⟨rfl, rfl, fun tick => beq_iff_eq⟩
  | some period =>
      cases q.lastTick with
      | none => exact .inr ⟨rfl, rfl, fun tick => beq_iff_eq⟩
      | some last =>
          by_cases pos : 0 < period
          · refine .inl ⟨period, last, pos, rfl, if_pos pos, if_pos pos, fun tick => ?_⟩
            dsimp only
            rw [if_pos pos]
            simp only [Bool.and_eq_true, decide_eq_true_eq, beq_iff_eq, and_assoc]
          · refine .inr ⟨if_neg pos, if_neg pos, fun tick => ?_⟩
            dsimp only
            rw [if_neg pos, beq_iff_eq]

theorem isDueAt_iff_mem (q : Request α) (tick : Nat) : q.isDueAt tick = true ↔ tick ∈ q.schedule := by
  rcases q.schedule_cases with ⟨period, last, pos, -, ticks, -, due⟩ | ⟨ticks, -, due⟩
  · rw [due, ticks, mem_ticksFrom pos]
  · rw [due, ticks, List.mem_singleton]

theorem pairwise_schedule (q : Request α) : q.schedule.Pairwise (· < ·) := by
  rcases q.schedule_cases with ⟨period, last, pos, -, ticks, -⟩ | ⟨ticks, -⟩
  · rw [ticks]
    exact pairwise_ticksFrom pos _
  · rw [ticks]
    exact List.pairwise_singleton ..

theorem dueTicks_eq (q : Request α) :
    q.dueTicks = if q.schedule.length ≤ maxListed then some q.schedule else none := by
  rcases q.schedule_cases with ⟨period, last, pos, -, ticks, listed, -⟩ | ⟨ticks, listed, -⟩
  · rw [listed, ticks, length_ticksFrom]
    rfl
  · rw [listed, ticks, List.length_singleton, if_pos (by decide)]

theorem schedule_le_maxTick {q : Request α} (first : q.dueTick ≤ maxTick)
    (last : ∀ tick, q.lastTick = some tick → tick ≤ maxTick) :
    ∀ tick ∈ q.schedule, tick ≤ maxTick := by
  intro tick listed
  rcases q.schedule_cases with ⟨period, final, pos, ends, ticks, -⟩ | ⟨ticks, -⟩
  · rw [ticks, mem_ticksFrom pos] at listed
    exact listed.2.1.trans (last final ends)
  · rw [ticks, List.mem_singleton] at listed
    exact listed ▸ first

end Request

/-! ## Periodic effects -/

theorem Timing.check_periodic_iff {interval duration : Nat} :
    (Timing.periodic interval duration).check = .ok () ↔ 0 < interval ∧ interval ≤ duration := by
  rw [Timing.check]
  split
  · next zero =>
      refine iff_of_false nofun ?_
      rintro ⟨pos, -⟩
      omega
  · split
    · next short =>
        refine iff_of_false nofun ?_
        rintro ⟨-, fits⟩
        omega
    · exact iff_of_true rfl (by omega)

variable [Scalar α]

namespace Cast

variable {c : Cast α} {e : Effect α} {target : Option EntityId}

/-- A deferred effect requests nothing but itself, and only if it passes its check. -/
theorem runTopLevel_asks (c : Cast α) (target : Option EntityId) (deferred : e.timing ≠ .immediate)
    (s : Execution α) :
    (last (c.runTopLevel e target s)).report.scheduled = s.report.scheduled ∨
      e.check c.settings.vocabulary = .ok () ∧ ∃ q, c.request? e target = some q ∧
        (last (c.runTopLevel e target s)).report.scheduled = s.report.scheduled.push q := by
  rcases c.runTopLevel_cases e target s with ⟨fault, refused⟩ | ⟨checked, weighed⟩
  · rw [refused]
    exact .inl rfl
  · obtain ⟨g, begun⟩ := begin_ok e s
    have reads : (c.conditionsHold target e.conditions).Reads True { s with governor := g } :=
      reads_conditionsHold ..
    rw [weighed]
    unfold weigh
    rw [bind_ok begun]
    cases asked : c.conditionsHold target e.conditions { s with governor := g } with
    | error fault s' =>
        obtain ⟨drawn, -⟩ := reads.error asked
        rw [bind_error asked]
        exact .inl (congrArg Report.scheduled drawn.report)
    | ok met s' =>
        obtain ⟨stream, rfl⟩ := reads.drawn asked
        obtain ⟨q, request, -⟩ := c.request?_of_deferred deferred target
        rw [bind_ok asked]
        cases met with
        | false => exact .inl rfl
        | true =>
            rw [if_pos rfl, request]
            exact .inr ⟨checked, q, rfl, rfl⟩

omit [Scalar α] in
theorem schedule_of_request? {q : Request α} {interval duration : Nat}
    (timed : e.timing = .periodic interval duration) (passed : e.timing.check = .ok ())
    (room : c.tick + duration ≤ maxTick) (asked : c.request? e target = some q) :
    1 ≤ duration / interval ∧ q.schedule =
      (List.range (duration / interval)).map fun n => c.tick + (n + 1) * interval := by
  rw [timed] at passed
  obtain ⟨pos, fits⟩ := Timing.check_periodic_iff.mp passed
  refine ⟨(Nat.one_le_div_iff pos).mpr fits, ?_⟩
  unfold request? at asked
  rw [timed] at asked
  cases asked
  have due : c.tickAfter interval = c.tick + interval := Nat.min_eq_left (by omega)
  have ends : c.tickAfter duration = c.tick + duration := Nat.min_eq_left room
  simp only [Request.schedule, if_pos pos, due, ends, periodicCount_of_start pos fits, ticksFrom_of_start]

end Cast

namespace Interpreter

theorem execute_asks (i : Interpreter α) {e : Effect α} (context : Context) (w : World α) (clock : Clock)
    (deferred : e.timing ≠ .immediate) {q : Request α}
    (asked : q ∈ (i.execute e context w clock).1.report.scheduled) :
    e.check i.settings.vocabulary = .ok () ∧
      (i.cast context.caster w clock).request? e context.target = some q := by
  have finished (r : EStateM.Result Fault (Execution α) Unit) :
      (finish r).1.report.scheduled = (last r).report.scheduled := by
    cases r <;> rfl
  have ended : (i.execute e context w clock).1.report.scheduled =
      (last ((i.cast context.caster w clock).runTopLevel e context.target
        (i.start (.execute e context) w))).report.scheduled := finished _
  rw [ended] at asked
  rcases (i.cast context.caster w clock).runTopLevel_asks context.target deferred
    (i.start (.execute e context) w) with nothing | ⟨checked, q', request, one⟩
  · rw [nothing] at asked
    exact absurd asked (Array.not_mem_empty q)
  · rw [one] at asked
    have only : q ∈ (#[] : Array (Request α)).push q' := asked
    rcases Array.mem_push.mp only with before | rfl
    · exact absurd before (Array.not_mem_empty q)
    · exact ⟨checked, request⟩

end Interpreter

/-- A request is due exactly at the ticks of its schedule, which is ascending and does not pass the
largest tick. The list of due ticks is the schedule, unless that is longer than a list can be; then
there is no list. For a periodic effect with interval `i` and duration `d`, called at tick `T`, the
schedule is `T + i, T + 2 * i, …` with `d / i` entries, at least one, all after `T` and none after `T +
d`. -/
theorem Request.schedules_agree :
    (∀ q : Request α, q.dueTicks = if q.schedule.length ≤ maxListed then some q.schedule else none) ∧
    (∀ (q : Request α) (tick : Nat), q.isDueAt tick = true ↔ tick ∈ q.schedule) ∧
    (∀ q : Request α, q.schedule.Pairwise (· < ·) ∧
      (q.dueTick ≤ maxTick → (∀ tick, q.lastTick = some tick → tick ≤ maxTick) →
        ∀ tick ∈ q.schedule, tick ≤ maxTick)) ∧
    ∀ (i : Interpreter α) (e : Effect α) (context : Context) (w : World α) (clock : Clock)
      (interval duration : Nat), e.timing = .periodic interval duration →
      w.tick + duration ≤ maxTick →
      ∀ q ∈ (i.execute e context w clock).1.report.scheduled,
        1 ≤ duration / interval ∧
        q.schedule = (List.range (duration / interval)).map (fun n => w.tick + (n + 1) * interval) ∧
        ∀ tick ∈ q.schedule, w.tick < tick ∧ tick ≤ w.tick + duration := by
  refine ⟨dueTicks_eq, isDueAt_iff_mem, fun q => ⟨q.pairwise_schedule, schedule_le_maxTick⟩, ?_⟩
  intro i e context w clock interval duration timed room q asked
  have deferred : e.timing ≠ .immediate := by
    rw [timed]
    nofun
  obtain ⟨checked, request⟩ := i.execute_asks context w clock deferred asked
  obtain ⟨once, ticks⟩ := Cast.schedule_of_request? timed (Effect.parts_of_check checked).2.1 room request
  refine ⟨once, ticks, fun tick listed => ?_⟩
  rw [ticks] at listed
  obtain ⟨n, counted, rfl⟩ := List.mem_map.mp listed
  have pos : 0 < interval := by
    by_contra none
    rw [Nat.eq_zero_of_not_pos none, Nat.div_zero] at once
    exact absurd once (by decide)
  have inside : (n + 1) * interval ≤ duration :=
    (Nat.le_div_iff_mul_le pos).mp (List.mem_range.mp counted)
  have later : 0 < (n + 1) * interval := Nat.mul_pos n.succ_pos pos
  exact ⟨Nat.lt_add_of_pos_right later, Nat.add_le_add_left inside _⟩

/-! ## Drops of poison -/

namespace Interpreter

/-- An effect that is run at intervals, of which the first one begins when it is called for. -/
def venom (interval duration : Nat) : Effect Float where
  target := { shape := .single }
  operations := [.act (.dealDamage "poison" (.number 2))]
  timing := .periodic interval duration

theorem venom_due :
    ∃ q ∈ (novice.execute (venom 2 7) { caster := 1, target := some 2 } duel).1.report.scheduled,
      q.dueTicks = some [2, 4, 6] ∧ q.isDueAt 6 = true ∧ q.isDueAt 7 = false ∧
        ∀ tick ∈ q.schedule, tick ≤ maxTick := by
  have due : (novice.execute (venom 2 7) { caster := 1, target := some 2 } duel).1.report.scheduled.map
      (fun q => (q.dueTick, q.lastTick)) = #[(2, some 7)] := by decide +kernel
  have one : (2, some 7) ∈ #[((2, some 7) : Nat × Option Nat)] := Array.mem_singleton.mpr rfl
  rw [← due] at one
  obtain ⟨q, asked, ends⟩ := Array.mem_map.mp one
  obtain ⟨first, last⟩ := Prod.mk.inj ends
  obtain ⟨listing, agree, bounded, periodic⟩ := Request.schedules_agree (α := Float)
  obtain ⟨-, ticks, -⟩ := periodic novice (venom 2 7) { caster := 1, target := some 2 } duel .still 2 7
    rfl (by decide) q asked
  have schedule : q.schedule = [2, 4, 6] := ticks.trans (by decide)
  refine ⟨q, asked, ?_, ?_, ?_, (bounded q).2 ?_ fun tick final => ?_⟩
  · rw [listing q, schedule, if_pos (by decide)]
  · rw [agree q 6, schedule]
    decide
  · rw [Bool.eq_false_iff, ne_eq, agree q 7, schedule]
    decide
  · rw [first]
    decide
  · cases last.symm.trans final
    decide

/-- A request that is due at every tick up to the largest has no list of due ticks. -/
theorem venom_unlisted :
    (novice.execute (venom 1 maxTick) { caster := 1, target := some 2 } duel).1.report.scheduled.map
      (fun q => (q.dueTicks, q.isDueAt 1, q.isDueAt maxTick)) = #[(none, true, true)] := by
  decide +kernel

end Interpreter

end Grimoire
