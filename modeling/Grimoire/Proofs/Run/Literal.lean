import Grimoire.Proofs.Effect.Parts
import Grimoire.Proofs.Run.Pools
import Grimoire.Proofs.Run.Strikes

/-! # Actions with nothing to evaluate

A number that is written out is read without fail, and one that has passed its check is one that the
action can use.  `Cast.perform_fails` says what an action with such parameters can still fail for:
places, a log of events that is full, a change of a pool for a time, and a pool that has no range.
-/

namespace Grimoire

open Run

variable {α β γ : Type}

/-! ## Failures -/

/-- The faults that are left where all expressions are numbers which have been checked.  A pool cannot be
changed for a time, which no check looks at, and cannot be set if it is out of order. -/
inductive Fault.Residual (timed disorder : Prop) : Fault → Prop where
  | position (cause) : Residual timed disorder (.invalidPosition cause)
  | unknown (id) : Residual timed disorder (.unknownEffect id)
  | rejected (event) : Residual timed disorder (.eventRejected event)
  | abort {fault} (ceiling : fault.isAbort = true) : Residual timed disorder fault
  | timed (reason : timed) : Residual timed disorder (.validation .timedHealth)
  | disorder (reason : disorder) : Residual timed disorder .brokenBounds

theorem Fault.Residual.mono {timed timed' disorder disorder' : Prop} {fault : Fault}
    (h : fault.Residual timed disorder) (ht : timed → timed') (hd : disorder → disorder') :
    fault.Residual timed' disorder' := by
  cases h with
  | position cause => exact .position cause
  | unknown id => exact .unknown id
  | rejected event => exact .rejected event
  | abort ceiling => exact .abort ceiling
  | timed reason => exact .timed (ht reason)
  | disorder reason => exact .disorder (hd reason)

namespace Run

/-- From a state, a run fails for nothing but faults of some kind. -/
structure Fails (F : Fault → Prop) (m : Run α β) (s : Execution α) : Prop where
  fault : ∀ {fault s'}, m s = .error fault s' → F fault

namespace Fails

variable {F : Fault → Prop} {s s' : Execution α}

theorem of_ok {m : Run α β} {x : β} (h : m s = .ok x s') : m.Fails F s :=
  ⟨fun failed => by rw [h] at failed; cases failed⟩

theorem pure (x : β) : (Pure.pure x : Run α β).Fails F s := of_ok rfl

theorem throw {fault : Fault} (h : F fault) : (MonadExcept.throw fault : Run α β).Fails F s :=
  ⟨fun failed => by cases failed; exact h⟩

theorem bind {m : Run α β} {k : β → Run α γ} (hm : m.Fails F s)
    (hk : ∀ {x s'}, m s = .ok x s' → (k x).Fails F s') : (m >>= k).Fails F s := by
  constructor
  intro fault s' failed
  cases h : m s with
  | ok x s₁ =>
      rw [bind_ok h] at failed
      exact (hk h).fault failed
  | error raised s₁ =>
      rw [bind_error h] at failed
      cases failed
      exact hm.fault h

theorem after {m : Run α β} {k : β → Run α γ} {x : β} (h : m s = .ok x s')
    (hk : (k x).Fails F s') : (m >>= k).Fails F s :=
  ⟨fun failed => by rw [bind_ok h] at failed; exact hk.fault failed⟩

theorem get_bind {k : Execution α → Run α β} (h : (k s).Fails F s) : (get >>= k).Fails F s :=
  ⟨fun failed => h.fault failed⟩

theorem check {c : Except Fault β} (h : ∀ {fault}, c = .error fault → F fault) :
    (Run.check c : Run α β).Fails F s := by
  cases c with
  | ok x => exact pure x
  | error fault => exact throw (h rfl)

theorem onEntity {id : EntityId} {step : Entity α → Run α Unit}
    (h : ∀ e, s.world.entity? id = some e → (step e).Fails F s) : (Run.onEntity id step).Fails F s := by
  cases found : s.world.entity? id with
  | none => exact of_ok (onEntity_none found)
  | some e => exact ⟨fun failed => (h e found).fault (onEntity_some found ▸ failed)⟩

theorem onSlot {id : EntityId} {slot : Slot α β} {step : Entity α → β → Run α Unit}
    (h : ∀ e x, s.world.get? id slot = some x → (step e x).Fails F s) :
    (Run.onSlot id slot step).Fails F s := by
  refine onEntity fun e found => ?_
  cases held : e.get? slot with
  | none => exact pure ()
  | some x => exact h e x (by rw [World.get?, found]; exact held)

end Fails

end Run

variable [Scalar α]

/-! ## Literals -/

namespace Expr

variable {x : α}

theorem eval_number (finite : Scalar.isFinite x = true) (b : Bindings α) (s : Stream) :
    (number x).eval b s = .ok (.number x) s := by
  change (Value.finite "literal" x : Draw (Value α)) s = _
  rw [Value.finite, if_pos finite]
  rfl

theorem evalNumber_number (finite : Scalar.isFinite x = true) (b : Bindings α) (s : Stream) :
    (number x).evalNumber b s = .ok x s :=
  bind_ok (eval_number finite b s)

theorem evalBool_number (finite : Scalar.isFinite x = true) (b : Bindings α) (s : Stream) :
    (number x).evalBool b s = .ok (Scalar.truthy x) s :=
  bind_ok (eval_number finite b s)

theorem evalWhole_number (finite : Scalar.isFinite x = true) (whole : Scalar.isWhole x = true)
    (b : Bindings α) (s : Stream) : (number x).evalWhole b s = .ok x s := by
  unfold evalWhole
  rw [bind_ok (evalNumber_number finite b s), if_pos whole]
  rfl

/-- A literal that passes its check is one that the parameter allows. -/
theorem allows_of_check {operation parameter : String} {d : Domain}
    (passed : (number x).checkParameter operation parameter d = .ok ()) : d.allows x = true := by
  unfold checkParameter literal? at passed
  dsimp only at passed
  split at passed
  · next allowed => exact allowed
  · cases passed

end Expr

namespace Cast

variable {c : Cast α} {target : EntityId} {s : Execution α} {x : α}

omit [Scalar α] in
theorem draw_ok {d : Draw β} {y : β} (h : ∀ stream, d stream = .ok y stream) :
    Run.draw d s = .ok y s := by
  simp only [Run.draw, h]

theorem eval_number (finite : Scalar.isFinite x = true) :
    c.eval target (.number x) s = .ok (.number x) s := by
  unfold Cast.eval
  rw [Run.get_bind]
  exact draw_ok (Expr.eval_number finite _)

theorem evalNumber_number (finite : Scalar.isFinite x = true) :
    c.evalNumber target (.number x) s = .ok x s := by
  unfold Cast.evalNumber
  rw [Run.get_bind]
  exact draw_ok (Expr.evalNumber_number finite _)

theorem evalBool_number (finite : Scalar.isFinite x = true) :
    c.evalBool target (.number x) s = .ok (Scalar.truthy x) s := by
  unfold Cast.evalBool
  rw [Run.get_bind]
  exact draw_ok (Expr.evalBool_number finite _)

theorem evalPoint_literal {p : Coordinates α} (literal : ∀ e ∈ p.expressions, e.IsLiteral) :
    ∃ point, c.evalPoint target p s = .ok point s := by
  obtain ⟨x, y⟩ := p
  obtain ⟨x, rfl, xFinite⟩ := literal x (by simp [Coordinates.expressions])
  obtain ⟨y, rfl, yFinite⟩ := literal y (by simp [Coordinates.expressions])
  refine ⟨⟨x, y⟩, ?_⟩
  have finite : (⟨x, y⟩ : Position α).isFinite = true := by
    simp [Position.isFinite, xFinite, yFinite]
  unfold evalPoint
  rw [bind_ok (evalNumber_number xFinite), bind_ok (evalNumber_number yFinite), if_pos finite]
  rfl

theorem evalStacks_literal {count : StackCount α}
    (literal : ∀ e ∈ count.expressions, e.IsLiteral) :
    ∃ n, c.evalStacks target count s = .ok n s := by
  cases count with
  | all => exact ⟨none, rfl⟩
  | count e =>
      obtain ⟨x, rfl, finite⟩ := literal e List.mem_cons_self
      exact ⟨_, bind_ok (evalNumber_number finite)⟩

theorem evalPayload_literal {payload : List (String × Expr α)}
    (literal : ∀ entry ∈ payload, entry.2.IsLiteral)
    (named : ∀ entry ∈ payload, Vocabulary.checkIdentifier "payload key" entry.1 = .ok ()) :
    ∃ values, c.evalPayload target payload s = .ok values s := by
  induction payload with
  | nil => exact ⟨[], rfl⟩
  | cons entry rest ih =>
      obtain ⟨key, e⟩ := entry
      obtain ⟨⟨x, same, finite⟩, literals⟩ := List.forall_mem_cons.mp literal
      obtain ⟨first, others⟩ := List.forall_mem_cons.mp named
      obtain ⟨values, evaluated⟩ := ih literals others
      dsimp only at same
      subst same
      refine ⟨(key, .number x) :: values, ?_⟩
      unfold evalPayload
      rw [bind_ok (check_of_ok first s), bind_ok (eval_number finite), bind_ok evaluated]
      rfl

variable [Quantity.Ordered α]

theorem evalCount_number (c : Cast α) (target : EntityId) (s : Execution α) (what : String)
    (allowed : Domain.count.allows x = true) :
    ∃ n, c.evalCount target what (.number x) s = .ok n s := by
  simp only [Domain.allows, Bool.and_eq_true, decide_eq_true_eq] at allowed
  obtain ⟨finite, nonneg, whole⟩ := allowed
  refine ⟨Scalar.toNatUpTo maxCount x, ?_⟩
  unfold evalCount
  rw [Run.get_bind, bind_ok (draw_ok (Expr.evalWhole_number finite whole _)),
    if_neg (Quantity.Ordered.not_lt_of_le nonneg)]
  rfl

theorem expiry_literal (c : Cast α) (target : EntityId) (s : Execution α) (what : String)
    {duration : Option (Expr α)} {operation parameter : String}
    (literal : ∀ e ∈ duration.toList, e.IsLiteral)
    (passed : Expr.checkOptional operation parameter .nonNegative duration = .ok ()) :
    ∃ expiresAt, c.expiry target what duration s = .ok expiresAt s ∧
      (expiresAt.isSome = true ↔ ∃ d, duration = some (.number d) ∧ (d == 0) = false) := by
  cases duration with
  | none => exact ⟨none, rfl, by simp⟩
  | some e =>
      obtain ⟨d, rfl, finite⟩ := literal e List.mem_cons_self
      have allowed := Expr.allows_of_check passed
      simp only [Domain.allows, Bool.and_eq_true, decide_eq_true_eq] at allowed
      have read : c.expiry target what (some (.number d)) s =
          (if d < 0 then throw (.validation (.negative what (Scalar.text d)))
            else if d == 0 then pure none
            else pure (some (c.tickAfter (Scalar.toNatUpTo maxTick (Scalar.ceil d)))) :
              Run α (Option Nat)) s :=
        bind_ok (evalNumber_number finite)
      rw [read, if_neg (Quantity.Ordered.not_lt_of_le allowed.2)]
      cases zero : d == 0 with
      | true => exact ⟨none, rfl, by simp [zero]⟩
      | false => exact ⟨_, rfl, by simp [zero]⟩

end Cast

/-! ## Targets and conditions -/

namespace Selector

variable {sel : Selector α}

theorem admits_literal (literal : ∀ e ∈ sel.expressions, e.IsLiteral) (w : World α) (aim : Aim)
    (id : EntityId) (stream : Stream) :
    ∃ chosen, sel.admits w aim id stream = .ok chosen stream := by
  unfold admits
  cases w.entity? id with
  | none => exact ⟨false, rfl⟩
  | some e =>
      unfold expressions at literal
      cases filter : sel.filter with
      | none => exact ⟨_, rfl⟩
      | some f =>
          rw [filter] at literal
          suffices passes : ∃ passed, f.passes w aim.caster id e stream = .ok passed stream by
            obtain ⟨passed, passes⟩ := passes
            exact ⟨_, bind_ok passes⟩
          unfold Filter.passes
          by_cases admitted : f.admits e = true
          · rw [if_pos admitted]
            cases predicate : f.predicate with
            | none => exact ⟨true, rfl⟩
            | some p =>
                obtain ⟨x, rfl, finite⟩ := literal p (by simp [predicate])
                exact ⟨_, Expr.evalBool_number finite _ stream⟩
          · rw [if_neg admitted]
            exact ⟨false, rfl⟩

theorem choose_literal (literal : ∀ e ∈ sel.expressions, e.IsLiteral) (w : World α) (aim : Aim)
    (ids : List EntityId) (stream : Stream) :
    ∃ chosen, sel.choose w aim ids stream = .ok chosen stream := by
  induction ids with
  | nil => exact ⟨[], rfl⟩
  | cons id ids ih =>
      obtain ⟨admitted, admits⟩ := admits_literal literal w aim id stream
      obtain ⟨others, chose⟩ := ih
      refine ⟨if admitted then id :: others else others, ?_⟩
      unfold choose
      rw [bind_ok admits, bind_ok chose]
      rfl

end Selector

namespace Cast

/-- A selector with a sound shape and nothing to evaluate always chooses. -/
theorem resolve_literal (c : Cast α) {sel : Selector α} (origin : EntityId)
    (designated : Option EntityId) (s : Execution α)
    (literal : ∀ e ∈ sel.expressions, e.IsLiteral) (sound : sel.shape.check = .ok ()) :
    ∃ ids, c.resolve sel origin designated s = .ok ids s := by
  let aim : Aim := ⟨c.caster, origin, designated, s.governor.affected⟩
  obtain ⟨chosen, chose⟩ := Selector.choose_literal literal s.world aim
    (sel.shape.candidates s.world aim c.settings.lineWidth) s.stream
  have resolved : sel.resolve s.world aim c.settings.lineWidth s.stream =
      .ok (sel.limit chosen) s.stream := by
    unfold Selector.resolve
    rw [sound]
    exact bind_ok chose
  refine ⟨sel.limit chosen, ?_⟩
  unfold Cast.resolve
  rw [Run.get_bind]
  simp only [Run.draw, resolved, aim]

theorem conditionsHold_literal (c : Cast α) (target : Option EntityId) (s : Execution α)
    {conditions : List (Expr α)} (literal : ∀ e ∈ conditions, e.IsLiteral) :
    ∃ met, c.conditionsHold target conditions s = .ok met s := by
  induction conditions with
  | nil => exact ⟨true, rfl⟩
  | cons e es ih =>
      obtain ⟨⟨x, rfl, finite⟩, others⟩ := List.forall_mem_cons.mp literal
      obtain ⟨met, held⟩ := ih others
      unfold conditionsHold
      rw [Run.get_bind, bind_ok (draw_ok (Expr.evalBool_number finite _))]
      cases Scalar.truthy x with
      | true => exact ⟨met, held⟩
      | false => exact ⟨false, rfl⟩

end Cast

/-! ## Actions -/

def Action.IsTimedHealth : Action α → Prop
  | modifyStat stat _ (some (.number d)) => stat = "health" ∧ (d == 0) = false
  | _ => False

namespace Cast

variable {c : Cast α} {target : EntityId} {s : Execution α} {timed disorder : Prop}

theorem checkBounds_fails (operation : String) (p : Position α) :
    (checkBounds operation p).Fails (Fault.Residual timed disorder) s := by
  refine .get_bind ?_
  split
  · exact .pure ()
  · exact .throw (.position _)

theorem moveTo_fails (operation : String) (goal : Position α) :
    (moveTo target operation goal).Fails (Fault.Residual timed disorder) s :=
  (checkBounds_fails operation goal).bind fun _ => .onEntity fun _ _ => .of_ok rfl

omit [Scalar α] in
theorem casterPosition_fails (use : Anchor) :
    (c.casterPosition use).Fails (Fault.Residual timed disorder) s := by
  refine .get_bind ?_
  split
  · exact .throw (.position _)
  · exact .pure _

theorem pushDirection_fails (source : Position α) {direction : Option (Coordinates α)}
    (literal : ∀ e ∈ Coordinates.expressions? direction, e.IsLiteral) :
    (c.pushDirection target source direction).Fails (Fault.Residual timed disorder) s := by
  cases direction with
  | none => exact (casterPosition_fails _).bind fun _ => .get_bind (.pure _)
  | some direction =>
      obtain ⟨point, evaluated⟩ := evalPoint_literal literal
      refine .after evaluated ?_
      split
      · exact .throw (.position _)
      · exact .pure _

theorem pullAnchor_fails {toward : Option (Coordinates α)}
    (literal : ∀ e ∈ Coordinates.expressions? toward, e.IsLiteral) :
    (c.pullAnchor target toward).Fails (Fault.Residual timed disorder) s := by
  cases toward with
  | none => exact casterPosition_fails _
  | some toward =>
      obtain ⟨point, evaluated⟩ := evalPoint_literal literal
      exact .of_ok evaluated

theorem setHealth_fails (value : Health α → α) :
    (setHealth target value).Fails (Fault.Residual timed (¬ s.world.PoolsInOrder)) s := by
  refine .onSlot fun e h held => ?_
  cases set : h.setCurrent? (value h) with
  | some changed => exact .of_ok rfl
  | none =>
      refine .throw (.disorder fun order => ?_)
      have nonneg : 0 ≤ h.max := order target h held
      simp [Health.setCurrent?, Quantity.confine?, nonneg] at set

omit [Scalar α] in
theorem changeMaximum_fails (expiresAt : Option Nat) (f : Health α → Health α) :
    (changeMaximum target expiresAt f).Fails (Fault.Residual timed disorder) s :=
  .onSlot fun _ _ _ => .of_ok rfl

theorem changeStats_fails (stat : String) (expiresAt : Option Nat)
    (f : StatBlock α → StatBlock α) (after : StatBlock α → α) :
    (changeStats target stat expiresAt f after).Fails (Fault.Residual timed disorder) s :=
  .onEntity fun _ _ => .of_ok rfl

theorem push_fails {direction : Option (Coordinates α)} {distance : Expr α}
    (literal : ∀ e ∈ Coordinates.expressions? direction, e.IsLiteral)
    (far : distance.IsLiteral) :
    (c.push target direction distance).Fails (Fault.Residual timed disorder) s := by
  obtain ⟨x, rfl, finite⟩ := far
  refine .after (evalNumber_number finite) (.get_bind ?_)
  split
  · exact .pure ()
  · exact (pushDirection_fails _ literal).bind fun _ => moveTo_fails ..

theorem pull_fails {toward : Option (Coordinates α)} {distance : Expr α}
    (literal : ∀ e ∈ Coordinates.expressions? toward, e.IsLiteral)
    (far : distance.IsLiteral) :
    (c.pull target toward distance).Fails (Fault.Residual timed disorder) s := by
  obtain ⟨x, rfl, finite⟩ := far
  refine .after (evalNumber_number finite) (.get_bind ?_)
  split
  · exact .pure ()
  · refine (pullAnchor_fails literal).bind fun _ => ?_
    dsimp only
    split
    · exact .pure ()
    · exact moveTo_fails ..

theorem emitEvent_fails {eventType : String} {payload : NameMap (Expr α)}
    (literal : ∀ e ∈ (Action.emitEvent eventType payload).expressions, e.IsLiteral)
    (passed : (Action.emitEvent eventType payload).check c.settings.vocabulary = .ok ()) :
    (c.emitEvent target eventType payload).Fails (Fault.Residual timed disorder) s := by
  obtain ⟨named, keys⟩ := Fault.ok_of_seq passed
  have literals (entry : String × Expr α) (listed : entry ∈ payload.toList) :
      entry.2.IsLiteral := literal _ (List.mem_map_of_mem listed)
  have identifiers (entry : String × Expr α) (listed : entry ∈ payload.toList) :
      Vocabulary.checkIdentifier "payload key" entry.1 = .ok () := by
    refine Fault.ok_of_forM keys entry.1 ?_
    rw [← Std.ExtTreeMap.map_fst_toList_eq_keys]
    exact List.mem_map_of_mem listed
  obtain ⟨values, evaluated⟩ := evalPayload_literal literals identifiers
  refine .after (check_of_ok named s) (.after evaluated (.get_bind ?_))
  split
  · exact .throw (.rejected _)
  · exact .of_ok rfl

variable [Quantity.Ordered α]

theorem modifyStat_fails {stat : String} {amount : Expr α} {duration : Option (Expr α)}
    (literal : ∀ e ∈ (Action.modifyStat stat amount duration).expressions, e.IsLiteral)
    (passed : (Action.modifyStat stat amount duration).check c.settings.vocabulary = .ok ()) :
    (c.modifyStat target stat amount duration).Fails
      (Fault.Residual (Action.modifyStat stat amount duration).IsTimedHealth
        (¬ s.world.PoolsInOrder)) s := by
  obtain ⟨named, rest⟩ := Fault.ok_of_seq passed
  obtain ⟨⟨x, rfl, finite⟩, durations⟩ := List.forall_mem_cons.mp literal
  obtain ⟨expiresAt, expires, lapses⟩ :=
    c.expiry_literal target s "modify_stat.duration" durations (Fault.ok_of_seq rest).2
  refine .after (check_of_ok named s) (.after (evalNumber_number finite) (.after expires ?_))
  by_cases pool : stat = "health"
  · rw [if_pos pool]
    by_cases timed : expiresAt.isSome = true
    · rw [if_pos timed]
      obtain ⟨d, rfl, nonzero⟩ := lapses.mp timed
      exact .throw (.timed ⟨pool, nonzero⟩)
    · rw [if_neg timed]
      exact setHealth_fails _
  · rw [if_neg pool]
    by_cases maximum : stat = "maxHealth"
    · rw [if_pos maximum]
      exact changeMaximum_fails ..
    · rw [if_neg maximum]
      exact changeStats_fails ..

/-- A timed change of current health passes its check and fails when it is performed. -/
theorem perform_timedHealth (c : Cast α) (target : EntityId) {action : Action α} (s : Execution α)
    (literal : ∀ e ∈ action.expressions, e.IsLiteral)
    (passed : action.check c.settings.vocabulary = .ok ()) (timed : action.IsTimedHealth) :
    c.perform target action s = .error (.validation .timedHealth) s := by
  unfold Action.IsTimedHealth at timed
  split at timed
  · next stat amount d =>
      obtain ⟨rfl, nonzero⟩ := timed
      obtain ⟨named, rest⟩ := Fault.ok_of_seq passed
      obtain ⟨⟨x, rfl, finite⟩, durations⟩ := List.forall_mem_cons.mp literal
      obtain ⟨expiresAt, expires, lapses⟩ :=
        c.expiry_literal target s "modify_stat.duration" durations (Fault.ok_of_seq rest).2
      have some : expiresAt.isSome = true := lapses.mpr ⟨d, rfl, nonzero⟩
      change c.modifyStat target "health" (.number x) (.some (.number d)) s = _
      unfold Cast.modifyStat
      rw [bind_ok (check_of_ok named s), bind_ok (evalNumber_number finite), bind_ok expires,
        if_pos rfl, if_pos some]
      rfl
  · exact timed.elim

omit [Quantity.Ordered α] in
theorem setStat_fails {stat : String} {value : Expr α} (literal : value.IsLiteral)
    (named : Vocabulary.checkStat stat = .ok ()) :
    (c.setStat target stat value).Fails
      (Fault.Residual timed (¬ s.world.PoolsInOrder)) s := by
  obtain ⟨x, rfl, finite⟩ := literal
  refine .after (check_of_ok named s) (.after (evalNumber_number finite) ?_)
  by_cases pool : stat = "health"
  · rw [if_pos pool]
    exact setHealth_fails _
  · rw [if_neg pool]
    by_cases maximum : stat = "maxHealth"
    · rw [if_pos maximum]
      exact changeMaximum_fails ..
    · rw [if_neg maximum]
      exact changeStats_fails ..

theorem spawn_fails (typeName : String) (itemId : Option String) {count : Expr α}
    {place : Option (Coordinates α)} {operation parameter : String}
    (literal : count.IsLiteral)
    (passed : count.checkParameter operation parameter .count = .ok ())
    (places : ∀ e ∈ Coordinates.expressions? place, e.IsLiteral)
    (known : c.settings.vocabulary.Offers typeName itemId) :
    (c.spawn target typeName itemId count place).Fails (Fault.Residual timed disorder) s := by
  rw [spawn_eq]
  refine .bind ?_ fun ordered => ?_
  · obtain ⟨x, rfl, -⟩ := literal
    obtain ⟨n, counted⟩ := c.evalCount_number target s "spawn.count" (Expr.allows_of_check passed)
    refine .after counted ?_
    cases place with
    | none =>
        exact (casterPosition_fails _).bind fun _ => (checkBounds_fails ..).bind fun _ => .pure _
    | some place =>
        obtain ⟨point, evaluated⟩ := evalPoint_literal places
        exact .after evaluated ((checkBounds_fails ..).bind fun _ => .pure _)
  · obtain ⟨s', ran, -⟩ := c.spawns_ok target typeName itemId _ _ _ (inside_of_spawnOrder ordered)
      known
    exact .of_ok ran

/-- What an action can fail for that has nothing to evaluate and has passed its check. -/
theorem perform_fails (c : Cast α) (target : EntityId) {action : Action α} (s : Execution α)
    (literal : ∀ e ∈ action.expressions, e.IsLiteral)
    (passed : action.check c.settings.vocabulary = .ok ()) :
    (c.perform target action).Fails
      (Fault.Residual action.IsTimedHealth (¬ s.world.PoolsInOrder)) s := by
  cases action with
  | dealDamage damageType amount =>
      obtain ⟨x, rfl, finite⟩ := literal amount List.mem_cons_self
      refine .after (check_of_ok (Fault.ok_of_seq passed).1 s) (.after (evalNumber_number finite) ?_)
      split
      · obtain ⟨s', run, -⟩ := c.restore_ok target (-x) s
        exact .of_ok run
      · obtain ⟨s', run, -⟩ := c.wound_ok target x s
        exact .of_ok run
  | heal amount =>
      obtain ⟨x, rfl, finite⟩ := literal amount List.mem_cons_self
      have allowed := Expr.allows_of_check passed
      simp only [Domain.allows, Bool.and_eq_true, decide_eq_true_eq] at allowed
      obtain ⟨s', run, -⟩ := c.restore_ok target x s
      refine .after (evalNumber_number finite) ?_
      rw [if_neg (Quantity.Ordered.not_lt_of_le allowed.2)]
      exact .of_ok run
  | applyStatus status duration count =>
      obtain ⟨durations, counts⟩ := List.forall_mem_append.mp literal
      obtain ⟨x, rfl, -⟩ := counts count List.mem_cons_self
      obtain ⟨named, rest⟩ := Fault.ok_of_seq passed
      obtain ⟨whole, lasting⟩ := Fault.ok_of_seq rest
      obtain ⟨n, counted⟩ :=
        c.evalCount_number target s "apply_status.stacks" (Expr.allows_of_check whole)
      obtain ⟨expiresAt, expires, -⟩ :=
        c.expiry_literal target s "apply_status.duration" durations lasting
      refine .after (check_of_ok named s) (.after counted (.after expires ?_))
      split
      · exact .pure ()
      · exact .onEntity fun _ _ => .of_ok rfl
  | removeStatus status count =>
      obtain ⟨n, counted⟩ := evalStacks_literal literal
      refine .after (check_of_ok (Fault.ok_of_seq passed).1 s) (.after counted ?_)
      split
      · exact .pure ()
      · exact .onSlot fun _ _ _ => .of_ok rfl
  | modifyStat => exact modifyStat_fails literal passed
  | setStat stat value =>
      exact setStat_fails (literal value List.mem_cons_self) (Fault.ok_of_seq passed).1
  | teleport destination =>
      obtain ⟨point, evaluated⟩ := evalPoint_literal literal
      exact .after evaluated (moveTo_fails ..)
  | push direction distance =>
      obtain ⟨places, far⟩ := List.forall_mem_append.mp literal
      exact push_fails places (far distance List.mem_cons_self)
  | pull toward distance =>
      obtain ⟨places, far⟩ := List.forall_mem_append.mp literal
      exact pull_fails places (far distance List.mem_cons_self)
  | spawnEntity entityType count place =>
      obtain ⟨counted, places⟩ := List.forall_mem_cons.mp literal
      obtain ⟨named, rest⟩ := Fault.ok_of_seq passed
      have counts := (Fault.ok_of_seq rest).1
      exact .after (check_of_ok named s) (spawn_fails _ _ counted counts places named)
  | spawnItem itemId count place =>
      obtain ⟨counted, places⟩ := List.forall_mem_cons.mp literal
      obtain ⟨named, rest⟩ := Fault.ok_of_seq passed
      have counts := (Fault.ok_of_seq rest).1
      exact .after (check_of_ok named s) (spawn_fails _ _ counted counts places ⟨rfl, named⟩)
  | transformEntity toType duration =>
      obtain ⟨named, durations⟩ := Fault.ok_of_seq passed
      obtain ⟨expiresAt, expires, -⟩ :=
        c.expiry_literal target s "transform_entity.duration" literal durations
      exact .after (check_of_ok named s) (.after expires (.onEntity fun _ _ => .of_ok rfl))
  | transformMaterial source result =>
      obtain ⟨first, second⟩ := Fault.ok_of_seq passed
      refine .after (check_of_ok first s) (.after (check_of_ok second s) (.onEntity fun _ _ => ?_))
      split
      · exact .of_ok rfl
      · exact .pure ()
  | emitEvent => exact emitEvent_fails literal passed

end Cast

end Grimoire
