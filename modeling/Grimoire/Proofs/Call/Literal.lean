import Grimoire.Proofs.Call.Acts
import Grimoire.Proofs.Call.Origin
import Grimoire.Proofs.Call.Validity
import Grimoire.Proofs.Run.Literal

/-! # Calls with nothing to evaluate

If all expressions are numbers that have been checked, little is left for which a call can fail:
places, unknown effects, a log that is full, ceilings, and changes of a pool for a time, which pass
every check although no pool can be changed so.
-/

namespace Grimoire

open Run

variable {α : Type} [Scalar α]

/-! ## What a step fails for -/

namespace Cast

variable {c : Cast α} {timed disorder : Prop}

omit [Scalar α] in
theorem enroll_fails (c : Cast α) (target : EntityId) (s : Execution α) :
    (c.enroll target).Fails (Fault.Residual timed disorder) s := by
  have enrolls := c.enroll_cases s target
  refine ⟨fun failed => ?_⟩
  rw [failed] at enrolls
  cases enrolls
  exact .abort rfl

omit [Scalar α] in
theorem permit_fails (c : Cast α) (s : Execution α) :
    c.permit.Fails (Fault.Residual timed disorder) s := by
  have permits := c.permit_cases s
  refine ⟨fun failed => ?_⟩
  rw [failed] at permits
  cases permits <;> exact .abort rfl

omit [Scalar α] in
theorem enter_fails (c : Cast α) (b : Body) (s : Execution α) :
    (c.enter b).Fails (Fault.Residual timed disorder) s := by
  rcases b.admitted_or_refused c.settings.limits s.governor with room | ⟨fault, refused⟩
  · exact .of_ok (enter_ok room)
  · refine ⟨fun failed => ?_⟩
    rw [enter_refused refused] at failed
    cases failed
    cases refused <;> exact .abort rfl

omit [Scalar α] in
theorem require_fails (c : Cast α) (id : String) (s : Execution α) :
    (Run.check (c.book.require id) : Run α (Effect α)).Fails (Fault.Residual timed disorder) s := by
  refine .check fun refused => ?_
  rw [Spellbook.eq_unknown_of_require refused]
  exact .unknown id

theorem fault_of_step {m : Moment α} {fault : Fault} (failed : (c.step m).fault = some fault) :
    m.fault = some fault ∨
      ∃ p rest s', m.agenda = p :: rest ∧ p.unfold c m.state = .error fault s' := by
  obtain ⟨agenda, raised, s⟩ := m
  cases agenda with
  | nil => exact .inl failed
  | cons p rest =>
      cases raised with
      | some raised => exact .inl failed
      | none =>
          cases unfolds : p.unfold c s with
          | ok more s' =>
              rw [step_ok rest unfolds] at failed
              cases failed
          | error fault' s' =>
              rw [step_error rest unfolds] at failed
              cases failed
              exact .inr ⟨p, rest, s', rfl, unfolds⟩

end Cast

def Effect.TimesHealth (e : Effect α) : Prop :=
  ∃ action, Operation.act action ∈ e.parts ∧ action.IsTimedHealth

namespace Pending

variable [Quantity.Ordered α] {c : Cast α} {known : Effect α → Prop} {s : Execution α}

theorem dispatch_fails (literal : ∀ e, known e → e.IsLiteral) {target : EntityId} {op : Operation α}
    (stems : op.IsPartOf known) (checked : op.check c.settings.vocabulary = .ok ()) :
    ((dispatch target op).unfold c).Fails
      (Fault.Residual (∃ e, known e ∧ e.TimesHealth) (¬ s.world.PoolsInOrder)) s := by
  obtain ⟨e, knows, listed⟩ := stems
  have literals := (literal e knows).operation listed
  cases op with
  | act action =>
      unfold Operation.check at checked
      have performs := c.perform_fails target s literals checked
      refine .bind ⟨fun failed => ?_⟩ fun _ => .pure _
      exact (performs.fault failed).mono (fun timed => ⟨e, knows, action, listed, timed⟩) id
  | chain id newTarget => exact (c.require_fails id s).bind fun _ => .pure _
  | trigger id => exact (c.require_fails id s).bind fun _ => .pure _
  | conditional condition accepted refused =>
      obtain ⟨x, rfl, finite⟩ := literals condition List.mem_cons_self
      refine .after (Cast.evalBool_number finite) ?_
      split
      · exact .pure _
      · split
        · exact .pure _
        · exact .pure _
  | iterate times body =>
      obtain ⟨x, rfl, -⟩ := literals times List.mem_cons_self
      unfold Operation.check at checked
      obtain ⟨n, counted⟩ := c.evalCount_number target s "repeat.times"
        (Expr.allows_of_check (Fault.ok_of_seq checked).1)
      refine .after counted ?_
      split
      · exact .pure _
      · exact .pure _
  | delay ticks body =>
      obtain ⟨x, rfl, -⟩ := literals ticks List.mem_cons_self
      unfold Operation.check at checked
      obtain ⟨n, counted⟩ := c.evalCount_number target s "delay.ticks"
        (Expr.allows_of_check (Fault.ok_of_seq checked).1)
      have delayed : c.delay target (.number x) body s = Run.note _ s := bind_ok counted
      exact .after (delayed.trans rfl) (.pure _)

/-- The faults of an entry that comes from checked effects with literal expressions. -/
theorem unfold_fails (literal : ∀ e, known e → e.IsLiteral) {p : Pending α}
    (stems : p.StemsFrom known) (checked : p.Checked c.settings.vocabulary) (s : Execution α) :
    (p.unfold c).Fails
      (Fault.Residual (∃ e, known e ∧ e.TimesHealth) (¬ s.world.PoolsInOrder)) s := by
  cases p with
  | weigh e target =>
      obtain ⟨met, held⟩ := c.conditionsHold_literal target s (literal e stems).conditions
      refine .after held ?_
      split
      · split
        · exact .pure _
        · exact .of_ok rfl
      · exact .of_ok rfl
  | effect e designated =>
      have shape := Selector.shape_of_check (Effect.parts_of_check checked).1
      obtain ⟨ids, resolved⟩ :=
        c.resolve_literal c.caster designated s (literal e stems).selector shape
      exact .after resolved (.pure _)
  | targets ids ops =>
      cases ids with
      | nil => exact .pure _
      | cons id ids => exact (c.enroll_fails id s).bind fun _ => .pure _
  | operations target ops =>
      cases ops with
      | nil => exact .pure _
      | cons op ops => exact (c.permit_fails s).bind fun _ => .pure _
  | dispatch target op => exact dispatch_fails literal (stems op op.mem_parts) checked
  | rounds target n body => cases n <;> exact .pure _
  | chained target e newTarget =>
      obtain ⟨knows, id, e', knows', listed⟩ := stems
      obtain ⟨met, held⟩ :=
        c.conditionsHold_literal (some target) s (literal e knows).conditions
      obtain ⟨ids, resolved⟩ := c.resolve_literal target (some target) s
        ((literal e' knows').operation listed) (Selector.shape_of_check checked.2)
      refine .after (check_of_ok checked.1 s) (.after held ?_)
      split
      · exact .after resolved (.pure _)
      · exact .pure _
  | triggered target e =>
      obtain ⟨met, held⟩ :=
        c.conditionsHold_literal (some target) s (literal e stems).conditions
      refine .after (check_of_ok checked s) (.after held ?_)
      split
      · exact .pure _
      · exact .pure _
  | enter b inner => exact (c.enter_fails b s).bind fun _ => .pure _
  | close b => exact .of_ok rfl

end Pending

/-! ## Calls -/

namespace Interpreter

theorem opening_execute (i : Interpreter α) {e : Effect α} {context : Context} {w : World α}
    (clock : Clock) (checked : e.check i.settings.vocabulary = .ok ())
    (there : w.has context.caster = true) :
    i.opening (.execute e context) w clock =
      ⟨[.weigh e context.target], none, i.seed (.execute e context) w⟩ := by
  refine opening_of_ok ?_
  have prepared := Call.prepare_of_checked (c := i.cast context.caster w clock)
    (s := i.start (.execute e context) w) checked there context
  exact prepared.trans (bind_ok (i.begin_ok (.execute e context) w rfl))

variable [Quantity.Ordered α] {i : Interpreter α}

theorem moment_poolsInOrder (i : Interpreter α) (call : Call α) {w : World α} (clock : Clock)
    (order : w.PoolsInOrder) (n : Nat) : (i.moment call w clock n).state.world.PoolsInOrder := by
  refine i.moment_of_moves call w clock (P := fun s => s.world.PoolsInOrder) ?_
    Move.poolsInOrder ?_ n
  · intro s s' alike order
    rw [alike.world]
    exact order
  · rw [i.start_world]
    exact order

theorem moment_residual {e : Effect α} {context : Context} {w : World α} {clock : Clock}
    (literal : ∀ e', i.Knows e e' → e'.IsLiteral) (book : i.book.Checked i.settings.vocabulary)
    (checked : e.check i.settings.vocabulary = .ok ()) (there : w.has context.caster = true)
    (n : Nat) {fault : Fault}
    (failed : (i.moment (.execute e context) w clock n).fault = some fault) :
    fault.Residual (∃ e', i.Knows e e' ∧ e'.TimesHealth) (¬ w.PoolsInOrder) := by
  induction n with
  | zero =>
      change (i.opening _ w clock).fault = some fault at failed
      rw [i.opening_execute clock checked there] at failed
      cases failed
  | succ n ih =>
      rw [moment_succ] at failed
      rcases Cast.fault_of_step failed with earlier | ⟨p, rest, s', agenda, unfolds⟩
      · exact ih earlier
      · have listed : p ∈ (i.moment (.execute e context) w clock n).agenda := by
          rw [agenda]
          exact List.mem_cons_self
        have stems := i.moment_stemsFrom e context w clock n p listed
        have sanctioned : (Call.execute e context).Checked i.settings.vocabulary := checked
        have passed := (moment_checked book sanctioned w clock n).agenda p listed
        have residual := (Pending.unfold_fails literal stems passed _).fault unfolds
        exact residual.mono id fun disorder order =>
          disorder (i.moment_poolsInOrder _ clock order n)

/-- If all expressions of an effect and of the registered effects are literals and the effect passes its
check, a call by an existing caster can fail only for a place, an unknown effect, a full log, a ceiling,
a pool whose maximum is below zero, or a timed change of current health. The last one passes the check
and fails whenever it is performed. -/
theorem literal_failures {settings : Settings α} (built : Built settings i) {e : Effect α}
    (context : Context) {w : World α} (clock : Clock)
    (literal : ∀ e', i.Knows e e' → e'.IsLiteral)
    (checked : e.check settings.vocabulary = .ok ()) (there : w.has context.caster = true) :
    (∀ failure, (i.execute e context w clock).1 = .error failure →
      failure.fault.Residual (∃ e', i.Knows e e' ∧ e'.TimesHealth) (¬ w.PoolsInOrder)) ∧
    ∀ e' action, i.Knows e e' → .act action ∈ e'.parts → action.IsTimedHealth → ∀ target s,
      (i.cast context.caster w clock).perform target action s =
        .error (.validation .timedHealth) s := by
  have book := built.checked
  rw [← built.settings_eq] at book checked
  constructor
  · intro failure failed
    obtain ⟨last, nothing, -⟩ := i.exists_last (.execute e context) w clock
    exact moment_residual literal book checked there last (fault_of_run nothing failed)
  · intro e' action knows listed timed target s
    have passed : e'.check i.settings.vocabulary = .ok () := by
      rcases knows with rfl | ⟨id, found⟩
      · exact checked
      · exact book id e' found
    have part := Operation.check_of_mem_partsAll (Effect.parts_of_check passed).2.2 _ listed
    unfold Operation.check at part
    exact Cast.perform_timedHealth _ target s ((literal e' knows).operation listed) part timed

def burst : Effect Float where
  id := some "burst"
  target := { shape := .single }
  operations :=
    [.act (.dealDamage "fire" (.number 12)), .act (.modifyStat "health" (.number 5) (some (.number 3)))]

/-- A world with somebody who casts and somebody who has a pool. -/
def duel : World Float :=
  ((World.create .empty "wizard").2.create "goblin").2.update 2 fun e =>
    e.put .health { current := 30, max := 30 }

def novice : Interpreter Float := ⟨.standard, {}⟩

theorem burst_literal (e : Effect Float) (knows : novice.Knows burst e) : e.IsLiteral := by
  rcases knows with rfl | ⟨id, found⟩
  · intro x listed
    have numbers : burst.expressions = [.number 12, .number 5, .number 3] := rfl
    rw [numbers] at listed
    simp only [List.mem_cons, List.not_mem_nil, or_false] at listed
    rcases listed with rfl | rfl | rfl <;> exact ⟨_, rfl, by decide +kernel⟩
  · simp [Spellbook.get?, novice] at found

/-- The effect passes its check, deals its damage, and then fails. -/
theorem burst_fizzles :
    Built .standard novice ∧ (∀ e, novice.Knows burst e → e.IsLiteral) ∧
      burst.check novice.settings.vocabulary = .ok () ∧ duel.has 1 = true ∧
      ∃ failure, (novice.execute burst { caster := 1, target := some 2 } duel).1 = .error failure ∧
        failure.fault = .validation .timedHealth ∧ failure.done.operations = 2 ∧
        failure.done.damageDealt = 12 :=
  ⟨.new, burst_literal, by decide +kernel, by decide +kernel, _, rfl, rfl, rfl, rfl⟩

/-- The fault is the timed change of current health. -/
theorem burst_explained :
    (∃ failure, (novice.execute burst { caster := 1, target := some 2 } duel).1 = .error failure ∧
      failure.fault.Residual (∃ e, novice.Knows burst e ∧ e.TimesHealth) (¬ duel.PoolsInOrder)) ∧
    ∀ target s, (novice.cast 1 duel).perform target
      (.modifyStat "health" (.number 5) (some (.number 3))) s =
        .error (.validation .timedHealth) s := by
  have checked : burst.check (Settings.standard : Settings Float).vocabulary = .ok () := by
    decide +kernel
  have there : duel.has 1 = true := by decide +kernel
  obtain ⟨fails, performs⟩ := literal_failures (i := novice) .new { caster := 1, target := some 2 }
    .still burst_literal checked there
  have listed : Operation.act (.modifyStat "health" (.number 5) (some (.number 3))) ∈ burst.parts :=
    List.mem_cons_of_mem _ List.mem_cons_self
  exact ⟨⟨_, rfl, fails _ rfl⟩, performs burst _ (.inl rfl) listed ⟨rfl, by decide +kernel⟩⟩

end Interpreter

end Grimoire
