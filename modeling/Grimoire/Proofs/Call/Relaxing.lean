import Grimoire.Proofs.Call.Counts

/-! # Ceilings do not show until they are reached

Two calls under looser and tighter ceilings go through the same moments until the tighter ones are
reached. From then on the tighter call only closes its bodies, while the looser one goes on, so the
report of the one is extended by the report of the other.
-/

namespace Grimoire

variable {α : Type}

/-! ## Looser ceilings -/

/-- A ceiling that is absent or at least as high as another, which is not absent. -/
def Looser (limit limit' : Option Nat) : Prop :=
  ∀ most', limit' = some most' → ∃ most, limit = some most ∧ most ≤ most'

theorem Allows.relax {limit limit' : Option Nat} {count : Nat} (h : Allows limit count)
    (looser : Looser limit limit') : Allows limit' count := by
  intro most' limited
  obtain ⟨most, tight, le⟩ := looser most' limited
  exact Nat.le_trans (h most tight) le

/-- Ceilings without a timeout, and looser ones.  Those that reduce what operations do are the
same. -/
structure Limits.Relaxes (limits limits' : Limits α) : Prop where
  operations : Looser limits.operations limits'.operations
  depth : Looser limits.depth limits'.depth
  chainDepth : Looser limits.chainDepth limits'.chainDepth
  entities : Looser limits.entities limits'.entities
  damage : limits'.damage = limits.damage
  spawns : limits'.spawns = limits.spawns
  timeless : limits.timeout = none
  timeless' : limits'.timeout = none

/-- Whether one of the four ceilings that are counted ended a call. -/
def Fault.isCeiling : Fault → Bool
  | operationLimit _ | depthLimit _ | entityLimit _ | chainLimit _ (.depth _) => true
  | _ => false

/-- What is fixed for a call, under other ceilings and by another clock. -/
def Cast.under (c : Cast α) (limits : Limits α) (clock : Clock) : Cast α :=
  { c with settings := { c.settings with limits := limits }, clock := clock }

namespace Cast

variable [Scalar α]

/-! ## What ceilings do not change -/

/-- Whether what is fixed for two calls is the same, but for the ceilings that are counted, the seed and
the clock. -/
structure Alike (c c' : Cast α) : Prop where
  caster : c'.caster = c.caster
  tick : c'.tick = c.tick
  book : c'.book = c.book
  vocabulary : c'.settings.vocabulary = c.settings.vocabulary
  lineWidth : c'.settings.lineWidth = c.settings.lineWidth
  damage : c'.settings.limits.damage = c.settings.limits.damage
  spawns : c'.settings.limits.spawns = c.settings.limits.spawns

section Alike

variable {c c' : Cast α}

omit [Scalar α] in
/-- The other cast, as the first one with another seed, another clock and other counted ceilings. -/
theorem Alike.eq (alike : c.Alike c') :
    c' = { c with
      settings := { c.settings with
        limits := { c'.settings.limits with
          damage := c.settings.limits.damage
          spawns := c.settings.limits.spawns }
        seed := c'.settings.seed }
      clock := c'.clock } := by
  obtain ⟨caster, tick, book, vocabulary, lineWidth, damage, spawns⟩ := alike
  simp only [← caster, ← tick, ← book, ← vocabulary, ← lineWidth, ← damage, ← spawns]

theorem conditionsHold_congr (same : c'.caster = c.caster) (target : Option EntityId)
    (conditions : List (Expr α)) :
    c'.conditionsHold target conditions = c.conditionsHold target conditions := by
  induction conditions with
  | nil => rfl
  | cons e es ih =>
      unfold conditionsHold
      rw [ih, same]

theorem evalPayload_congr (same : c'.caster = c.caster) (target : EntityId)
    (payload : List (String × Expr α)) :
    c'.evalPayload target payload = c.evalPayload target payload := by
  induction payload with
  | nil => rfl
  | cons entry rest ih =>
      unfold evalPayload eval
      rw [ih, same]

theorem perform_congr (alike : c.Alike c') (target : EntityId) (action : Action α) :
    c'.perform target action = c.perform target action := by
  have payload := evalPayload_congr alike.caster target
  rw [alike.eq] at payload ⊢
  cases action with
  | emitEvent eventType values =>
      simp only [perform, emitEvent, payload]
  | _ => rfl

/-- What neither counts nor opens anything does the same under other ceilings. -/
theorem unfold_congr (alike : c.Alike c') {p : Pending α} (quiet : p.isQuiet = true) :
    p.unfold c' = p.unfold c := by
  have conditions := conditionsHold_congr alike.caster
  have perform := perform_congr alike
  rw [alike.eq] at conditions perform ⊢
  cases p with
  | weigh | chained =>
      simp only [Pending.unfold, conditions]
      rfl
  | triggered => simp only [Pending.unfold, conditions]
  | effect => rfl
  | targets ids ops =>
      cases ids with
      | nil => rfl
      | cons => cases quiet
  | operations target ops =>
      cases ops with
      | nil => rfl
      | cons => cases quiet
  | dispatch target op =>
      cases op with
      | act action => simp only [Pending.unfold, perform]
      | _ => rfl
  | rounds target n body => cases n <;> rfl
  | enter | close => cases quiet

end Alike

/-! ## One step -/

variable {c : Cast α} {limits : Limits α}

/-- How a step reaches one of the four ceilings. -/
structure Trips (c : Cast α) (m : Moment α) : Prop where
  ended : ∃ fault, (c.step m).fault = some fault ∧ fault.isCeiling = true
  report : (c.step m).state.report = m.state.report

theorem trips_of_error {p : Pending α} {rest : List (Pending α)} {fault : Fault}
    {s s' : Execution α} (h : p.unfold c s = .error fault s') (ceiling : fault.isCeiling = true)
    (report : s'.report = s.report) : c.Trips ⟨p :: rest, none, s⟩ := by
  constructor
  · rw [step_error rest h]
    exact ⟨fault, rfl, ceiling⟩
  · rw [step_error rest h]
    exact report

theorem step_targets_under (entities : Looser c.settings.limits.entities limits.entities)
    (clock : Clock) (id : EntityId) (ids : List EntityId) (ops : List (Operation α))
    (rest : List (Pending α)) (s : Execution α) :
    (c.under limits clock).step ⟨.targets (id :: ids) ops :: rest, none, s⟩ =
        c.step ⟨.targets (id :: ids) ops :: rest, none, s⟩ ∨
      c.Trips ⟨.targets (id :: ids) ops :: rest, none, s⟩ := by
  have enrolls := c.enroll_cases s id
  generalize result : c.enroll id s = r at enrolls
  cases enrolls with
  | known known =>
      left
      rw [step_ok rest (Run.bind_ok (enroll_known known)), step_ok rest (Run.bind_ok result)]
  | meets new room =>
      left
      have room' : Allows (c.under limits clock).settings.limits.entities
          (s.governor.affected.size + 1) := room.relax entities
      rw [step_ok rest (Run.bind_ok (enroll_new new room')), step_ok rest (Run.bind_ok result)]
  | crowded => exact .inr (trips_of_error (Run.bind_error result) rfl rfl)

theorem step_operations_under (relaxes : c.settings.limits.Relaxes limits) (clock : Clock)
    (target : EntityId) (op : Operation α) (ops : List (Operation α)) (rest : List (Pending α))
    (s : Execution α) :
    (c.under limits clock).step ⟨.operations target (op :: ops) :: rest, none, s⟩ =
        c.step ⟨.operations target (op :: ops) :: rest, none, s⟩ ∨
      c.Trips ⟨.operations target (op :: ops) :: rest, none, s⟩ := by
  have permits := c.permit_cases s
  generalize result : c.permit s = r at permits
  cases permits with
  | counts time room =>
      left
      have time' : (c.under limits clock).settings.limits.InTime clock s.governor.begun := by
        intro budget limit
        cases relaxes.timeless'.symm.trans limit
      have room' : Allows (c.under limits clock).settings.limits.operations
          s.overrun.governor.operations.toNat := room.relax relaxes.operations
      rw [step_ok rest (Run.bind_ok (permit_ok time' room')), step_ok rest (Run.bind_ok result)]
  | overruns => exact .inr (trips_of_error (Run.bind_error result) rfl rfl)
  | late limit => cases relaxes.timeless.symm.trans limit

theorem step_enter_under (relaxes : c.settings.limits.Relaxes limits) (clock : Clock) (b : Body)
    (inner : Pending α) (rest : List (Pending α)) (s : Execution α) :
    (c.under limits clock).step ⟨.enter b inner :: rest, none, s⟩ =
        c.step ⟨.enter b inner :: rest, none, s⟩ ∨
      c.Trips ⟨.enter b inner :: rest, none, s⟩ := by
  rcases b.admitted_or_refused c.settings.limits s.governor with room | ⟨fault, refused⟩
  · left
    have room' : b.Admitted (c.under limits clock).settings.limits s.governor :=
      ⟨room.fresh, fun chain => (room.chains chain).relax relaxes.chainDepth,
        room.depth.relax relaxes.depth⟩
    rw [step_ok rest (Run.bind_ok (enter_ok room')), step_ok rest (Run.bind_ok (enter_ok room))]
  · have trip (ceiling : fault.isCeiling = true) : c.Trips ⟨.enter b inner :: rest, none, s⟩ :=
      trips_of_error (Run.bind_error (enter_refused refused)) ceiling rfl
    cases refused with
    | cycle runs running =>
        left
        rw [step_error rest (Run.bind_error (enter_refused (.cycle runs running))),
          step_error rest (Run.bind_error (enter_refused (.cycle runs running)))]
    | chains | depth => exact .inr (trip rfl)

theorem step_under (relaxes : c.settings.limits.Relaxes limits) (clock : Clock) (m : Moment α) :
    (c.under limits clock).step m = c.step m ∨ c.Trips m := by
  obtain ⟨agenda, fault, s⟩ := m
  have alike : c.Alike (c.under limits clock) :=
    ⟨rfl, rfl, rfl, rfl, rfl, relaxes.damage, relaxes.spawns⟩
  have quiet {p : Pending α} (rest) (h : p.isQuiet = true) :
      (c.under limits clock).step ⟨p :: rest, none, s⟩ = c.step ⟨p :: rest, none, s⟩ := by
    simp only [step, unfold_congr alike h]
  cases agenda with
  | nil => exact .inl rfl
  | cons p rest =>
      cases fault with
      | some fault => exact .inl rfl
      | none =>
          cases p with
          | targets ids ops =>
              cases ids with
              | nil => exact .inl (quiet rest rfl)
              | cons id ids => exact step_targets_under relaxes.entities clock id ids ops rest s
          | operations target ops =>
              cases ops with
              | nil => exact .inl (quiet rest rfl)
              | cons op ops => exact step_operations_under relaxes clock target op ops rest s
          | enter b inner => exact step_enter_under relaxes clock b inner rest s
          | close b => exact .inl rfl
          | _ => exact .inl (quiet rest rfl)

end Cast

/-! ## Reports grow -/

namespace Moment

variable [Scalar α] {c : Cast α} {m m' : Moment α}

theorem extends_of_transition (transition : c.Transition m m') :
    m.state.report.Extends m'.state.report := by
  cases transition with
  | leads rest quiet leads calm => exact calm.report.extend
  | fails rest quiet plain calm => exact calm.report.extend
  | meets => exact { Report.Extends.refl _ with affected := Report.prefix_push .. }
  | counts | opens => exact { Report.Extends.refl _ with }
  | _ => exact .refl _

/-- After a fault nothing is reported any more, and the fault stays. -/
theorem report_of_fault {fault : Fault} (transition : c.Transition m m')
    (failed : m.fault = some fault) :
    m'.fault = some fault ∧ m'.state.report = m.state.report := by
  cases transition with
  | idle | drop | close => exact ⟨failed, rfl⟩
  | _ => cases failed

end Moment

/-! ## Calls -/

namespace Interpreter

variable [Scalar α]

def under (i : Interpreter α) (limits : Limits α) : Interpreter α :=
  { i with settings := { i.settings with limits := limits } }

variable (i : Interpreter α) (call : Call α) (w : World α) {limits limits' : Limits α}

theorem opening_under (clock clock' : Clock) :
    (i.under limits').opening call w clock' = (i.under limits).opening call w clock := by
  cases call <;> rfl

/-- What is reported at one moment is reported at all that follow. -/
theorem moment_extends (clock : Clock) (n k : Nat) :
    (i.moment call w clock n).state.report.Extends (i.moment call w clock (n + k)).state.report := by
  induction k with
  | zero => exact .refl _
  | succ k ih => exact ih.trans (Moment.extends_of_transition (Cast.step_transition ..))

/-- Two calls under looser and tighter ceilings are at the same moment, or the tighter ceilings have
ended one of them, and it reports what the other reported at an earlier moment. -/
theorem moments_under (relaxes : limits.Relaxes limits') (clock clock' : Clock) (n : Nat) :
    (i.under limits').moment call w clock' n = (i.under limits).moment call w clock n ∨
      (∃ fault, ((i.under limits).moment call w clock n).fault = some fault ∧
        fault.isCeiling = true) ∧
      ∃ k ≤ n, ((i.under limits).moment call w clock n).state.report =
        ((i.under limits').moment call w clock' k).state.report := by
  induction n with
  | zero => exact .inl (i.opening_under call w clock clock')
  | succ n ih =>
      rcases ih with same | ⟨⟨fault, failed, ceiling⟩, k, le, report⟩
      · rcases Cast.step_under (c := (i.under limits).cast call.caster w clock) relaxes clock'
          ((i.under limits).moment call w clock n) with equal | trips
        · refine .inl ?_
          rw [moment_succ, moment_succ, same]
          exact equal
        · exact .inr ⟨trips.ended, n, n.le_succ, trips.report.trans (by rw [same])⟩
      · have transition := Cast.step_transition ((i.under limits).cast call.caster w clock)
          ((i.under limits).moment call w clock n)
        obtain ⟨failed', kept⟩ := Moment.report_of_fault transition failed
        exact .inr ⟨⟨fault, failed', ceiling⟩, k, Nat.le_succ_of_le le, kept.trans report⟩

/-- Ceilings are invisible until they are reached. A call that is not ended by one of the four counted
ceilings has the same outcome, report and world under looser ones. If one of them ends it, the report
under looser ceilings extends its report, and counts no less as long as no counter overflows. -/
theorem run_relaxed (relaxes : limits.Relaxes limits') (clock clock' : Clock) :
    let tight := (i.under limits).run call w clock
    let loose := (i.under limits').run call w clock'
    ((∀ failure, tight.1 = .error failure → failure.fault.isCeiling = false) → loose = tight) ∧
    ∀ failure, tight.1 = .error failure → failure.fault.isCeiling = true →
      failure.done.Extends loose.1.report ∧
      ((∀ n, ((i.under limits').moment call w clock' n).state.governor.begun ≤ maxCount) →
        failure.done.operations ≤ loose.1.report.operations) ∧
      ((∀ n, (i.under limits').chainsOpened call w clock' n ≤ maxCount) →
        failure.done.chainCount ≤ loose.1.report.chainCount) := by
  intro tight loose
  obtain ⟨last, nothing, -⟩ := (i.under limits).exists_last call w clock
  obtain ⟨last', nothing', -⟩ := (i.under limits').exists_last call w clock'
  have settled : ((i.under limits).moment call w clock (last + last')).agenda = [] := by
    rw [moment_of_last nothing]
    exact nothing
  have settled' : ((i.under limits').moment call w clock' (last + last')).agenda = [] := by
    rw [Nat.add_comm, moment_of_last nothing']
    exact nothing'
  rcases i.moments_under call w relaxes clock clock' (last + last')
      with same | ⟨⟨fault, failed, ceiling⟩, k, le, behind⟩
  · have equal : loose = tight := by
      change (i.under limits').run call w clock' = (i.under limits).run call w clock
      rw [run_eq_of_last settled', run_eq_of_last settled, same]
    refine ⟨fun _ => equal, fun failure ended _ => ?_⟩
    rw [equal, ended]
    exact ⟨.refl _, fun _ => UInt32.le_refl _, fun _ => UInt32.le_refl _⟩
  · refine ⟨fun plain => ?_, fun failure ended _ => ?_⟩
    · have ended : tight.1 = .error ⟨fault, _⟩ := error_of_fault settled failed
      exact absurd (plain _ ended) (by rw [ceiling]; decide)
    · have done : failure.done = _ := done_of_run settled ended
      have report : loose.1.report = _ := report_run settled'
      obtain ⟨more, later⟩ := Nat.exists_eq_add_of_le le
      have grown := (i.under limits').moment_extends call w clock' k more
      rw [← later] at grown
      rw [done, report, behind]
      exact ⟨{ grown with }, fun few => (i.under limits').operations_mono call w clock' few le,
        fun few => (i.under limits').chainCount_mono call w clock' few le⟩

theorem relaxes_unlimited (most : Nat) :
    Limits.Relaxes { operations := some most } (.unlimited : Limits Float) := by
  have looser (limit : Option Nat) : Looser limit none := fun most h => by cases h
  exact ⟨looser _, looser _, looser _, looser _, rfl, rfl, rfl, rfl⟩

/-- With two operations allowed the call is as with no ceiling; with one allowed it stops early. -/
theorem decideTwice_relaxed :
    let run (limits : Limits Float) := ((frugal 0).under limits).run decideTwice lonely .still
    run .unlimited = run { operations := some 2 } ∧
      ∃ failure, (run { operations := some 1 }).1 = .error failure ∧
        failure.fault = .operationLimit 1 ∧
        failure.done.Extends (run .unlimited).1.report ∧
        failure.done.operations ≤ (run .unlimited).1.report.operations ∧
        failure.done.chainCount ≤ (run .unlimited).1.report.chainCount := by
  have relaxed (most : Nat) := run_relaxed (frugal 0) decideTwice lonely (relaxes_unlimited most)
    .still .still
  have nothing : (((frugal 0).under .unlimited).moment decideTwice lonely .still 13).agenda = [] :=
    List.isEmpty_iff.mp (by decide +kernel)
  have counts := counts_le_of_last nothing
  obtain ⟨failure, failed, fault⟩ : ∃ failure,
      (((frugal 0).under { operations := some 1 }).run decideTwice lonely .still).1 =
        .error failure ∧ failure.fault = .operationLimit 1 := ⟨_, rfl, rfl⟩
  have behind := (relaxed 1).2 failure failed (by rw [fault]; rfl)
  dsimp only
  refine ⟨(relaxed 2).1 ?_, failure, failed, fault, behind.1, behind.2.1 fun n => ?_,
    behind.2.2 fun n => ?_⟩
  · intro failure' failed'
    have enough : (((frugal 0).under { operations := some 2 }).run decideTwice lonely
        .still).1.isOk = true := by decide +kernel
    rw [failed'] at enough
    cases enough
  · exact Nat.le_trans (counts n).1 (by decide +kernel)
  · exact Nat.le_trans (counts n).2 (by decide +kernel)

def longVigil : Call Float :=
  .request
    { caster := 1
      target := none
      dueTick := 0
      work := .operations 1 [vigil maxCount] }

/-- Without a ceiling the counter overflows, and the report counts less than with a ceiling of one. -/
theorem longVigil_outran :
    let run (limits : Limits Float) := ((frugal 0).under limits).run longVigil lonely .still
    Limits.Relaxes { operations := some 1 } (.unlimited : Limits Float) ∧
      (run { operations := some 1 }).1 =
        .error ⟨.operationLimit 1, (run { operations := some 1 }).1.report⟩ ∧
      (run { operations := some 1 }).1.report.operations = 1 ∧
      (run .unlimited).1.isOk = true ∧ (run .unlimited).1.report.operations = 0 := by
  intro run
  let c := ((frugal 0).under .unlimited).cast 1 lonely .still
  have free : c.settings.limits.Open := ⟨nofun, rfl, rfl, rfl⟩
  have idle : (c.runOperations c.outermost 1 [vigil maxCount]).Idles [] (1 + maxCount) 0 :=
    Cast.idles_single (Cast.idles_vigil (by decide +kernel) (Nat.le_refl _) free)
  obtain ⟨r, ran, operations, -⟩ := request_idle .still (by decide +kernel) rfl idle
  have loose : run .unlimited = (.ok r, lonely) := ran
  rw [loose]
  exact ⟨relaxes_unlimited 1, rfl, by decide +kernel, rfl, operations.trans (by decide)⟩

end Interpreter

end Grimoire
