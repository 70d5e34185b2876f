import Grimoire.Proofs.Call.Deferral
import Grimoire.Proofs.Call.Relaxing
import Grimoire.Proofs.Run.Cost

/-! # What calls cost

A call of an effect that is no more than actions, delays and repetitions costs the same on each of its
targets, so what it counts is known as soon as its targets are chosen: the cost of its operations, once
for every target.

A ceiling of operations decides nothing else.  Under it a call goes as it goes without, until it is about
to begin one operation more than the ceiling allows, and if it never is, it ends in the same way.
-/

namespace Grimoire

open Run

variable {α : Type}

/-! ## One ceiling more -/

/-- What is fixed for a call, under another ceiling of operations. -/
def Cast.capped (c : Cast α) (most : Option Nat) : Cast α :=
  { c with settings := { c.settings with limits := { c.settings.limits with operations := most } } }

/-- The same interpreter under another ceiling of operations. -/
def Interpreter.capped (i : Interpreter α) (most : Option Nat) : Interpreter α :=
  { i with settings := { i.settings with limits := { i.settings.limits with operations := most } } }

variable [Scalar α]

namespace Cast

variable {c : Cast α} (timeless : c.settings.limits.timeout = none) (most : Nat)
include timeless

theorem step_operations_capped (target : EntityId) (op : Operation α) (ops : List (Operation α))
    (rest : List (Pending α)) (s : Execution α) :
    (c.capped none).step ⟨.operations target (op :: ops) :: rest, none, s⟩ =
        ⟨.dispatch target op :: .operations target ops :: rest, none, s.count⟩ ∧
      (c.capped (some most)).step ⟨.operations target (op :: ops) :: rest, none, s⟩ =
        if s.overrun.governor.operations.toNat ≤ most then
          ⟨.dispatch target op :: .operations target ops :: rest, none, s.count⟩
        else ⟨rest, some (.operationLimit most), s.overrun⟩ := by
  have time (limit : Option Nat) : (c.capped limit).settings.limits.InTime c.clock s.governor.begun := by
    intro budget limit
    cases timeless.symm.trans limit
  have begins {limit : Option Nat} (permitted : (c.capped limit).permit s = .ok () s.count) :
      (c.capped limit).step ⟨.operations target (op :: ops) :: rest, none, s⟩ =
        ⟨.dispatch target op :: .operations target ops :: rest, none, s.count⟩ := by
    have unfolds : Pending.unfold (c.capped limit) (.operations target (op :: ops)) s =
        .ok [.dispatch target op, .operations target ops] s.count := bind_ok permitted
    exact step_ok rest unfolds
  refine ⟨begins (permit_ok (time none) fun most limit => nomatch limit), ?_⟩
  split
  · next room =>
      exact begins (permit_ok (time _) fun most' limit => by cases limit; exact room)
  · next full =>
      have refused : (c.capped (some most)).permit s = .error (.operationLimit most) s.overrun :=
        permit_over (time _) rfl (Nat.lt_of_not_le full)
      exact step_error rest (bind_error refused)

/-- Under a ceiling of operations a step is the same, unless it begins an operation more than the
ceiling allows. The counter never exceeds the largest number that it can hold. -/
theorem step_capped (m : Moment α) :
    (c.capped (some most)).step m = (c.capped none).step m ∨
      ((c.capped (some most)).step m).fault = some (.operationLimit most) ∧ most < maxCount ∧
        most < ((c.capped none).step m).state.governor.begun := by
  obtain ⟨agenda, fault, s⟩ := m
  have alike : (c.capped none).Alike (c.capped (some most)) := ⟨rfl, rfl, rfl, rfl, rfl, rfl, rfl⟩
  have unfolds {p : Pending α} (rest)
      (h : p.unfold (c.capped (some most)) = p.unfold (c.capped none)) :
      (c.capped (some most)).step ⟨p :: rest, none, s⟩ = (c.capped none).step ⟨p :: rest, none, s⟩ := by
    simp only [step, h]
  cases agenda with
  | nil => exact .inl rfl
  | cons p rest =>
      cases fault with
      | some fault => exact .inl rfl
      | none =>
          cases p with
          | targets ids ops => cases ids <;> exact .inl (unfolds rest rfl)
          | enter b inner => cases b <;> exact .inl (unfolds rest rfl)
          | close b => exact .inl rfl
          | operations target ops =>
              cases ops with
              | nil => exact .inl rfl
              | cons op ops =>
                  obtain ⟨free, capped⟩ := step_operations_capped timeless most target op ops rest s
                  rw [free, capped]
                  split
                  · exact .inl rfl
                  · next full =>
                      have beyond := Nat.lt_of_not_le full
                      refine .inr ⟨rfl, ?_, Nat.lt_of_lt_of_le beyond ?_⟩
                      · exact Nat.lt_of_lt_of_le beyond (Nat.le_of_lt_succ (UInt32.toNat_lt _))
                      · exact Nat.mod_le ..
          | _ => exact .inl (unfolds rest (unfold_congr alike rfl))

end Cast

namespace Interpreter

variable {i : Interpreter α} (timeless : i.settings.limits.timeout = none) (call : Call α) (w : World α)
  (clock : Clock) (most : Nat)
include timeless

/-- A moment is the same under a ceiling of operations, or else the ceiling has ended the call and more
operations have been begun without it. -/
theorem moments_capped (n : Nat) :
    (i.capped (some most)).moment call w clock n = (i.capped none).moment call w clock n ∨
      ((i.capped (some most)).moment call w clock n).fault = some (.operationLimit most) ∧
        most < maxCount ∧ most < ((i.capped none).moment call w clock n).state.governor.begun := by
  induction n with
  | zero => exact .inl (by cases call <;> rfl)
  | succ n ih =>
      rw [moment_succ, moment_succ]
      rcases ih with same | ⟨ended, small, beyond⟩
      · rw [same]
        exact Cast.step_capped (c := i.cast call.caster w clock) timeless most _
      · have transition := Cast.step_transition ((i.capped (some most)).cast call.caster w clock)
          ((i.capped (some most)).moment call w clock n)
        refine .inr ⟨(Moment.report_of_fault transition ended).1, small, ?_⟩
        exact Nat.lt_of_lt_of_le beyond ((i.capped none).begun_mono call w clock n.le_succ)

/-- A call that succeeds is the same under every ceiling that allows as many operations as it has begun,
and under the largest ceiling. Every other ceiling ends it after as many operations as are allowed. -/
theorem run_capped {s : Execution α} (ended : call.perform ((i.capped none).cast call.caster w clock)
      ((i.capped none).start call w) = .ok () s) :
    (s.governor.begun ≤ most ∨ maxCount ≤ most →
      (i.capped (some most)).run call w clock = (i.capped none).run call w clock) ∧
    (most < s.governor.begun → most < maxCount → ∃ done,
      ((i.capped (some most)).run call w clock).1 = .error ⟨.operationLimit most, done⟩ ∧
        done.operations.toNat = most) := by
  obtain ⟨last, nothing, -⟩ := (i.capped none).exists_last call w clock
  obtain ⟨last', nothing', -⟩ := (i.capped (some most)).exists_last call w clock
  have settled : ((i.capped none).moment call w clock (last + last')).agenda = [] := by
    rw [moment_of_last nothing]
    exact nothing
  have settled' : ((i.capped (some most)).moment call w clock (last + last')).agenda = [] := by
    rw [Nat.add_comm, moment_of_last nothing']
    exact nothing'
  obtain ⟨running, state⟩ := Moment.of_result_ok ((perform_eq_of_last settled).symm.trans ended)
  have tallied := (i.capped (some most)).moment_tallied call w clock (last + last')
  rcases moments_capped timeless call w clock most (last + last') with same | ⟨stopped, small, beyond⟩
  · have within (small : most < maxCount) : s.governor.begun ≤ most := by
      have begun := tallied.begun (by rw [same]; exact running) most rfl small
      rwa [same, state] at begun
    refine ⟨fun _ => ?_, fun beyond small => absurd (within small) (Nat.not_le_of_lt beyond)⟩
    rw [run_eq_of_last settled', run_eq_of_last settled, same]
  · rw [state] at beyond
    refine ⟨fun room => ?_, fun _ _ => ?_⟩
    · exact (room.elim (Nat.not_le_of_lt beyond) (Nat.not_le_of_lt small)).elim
    · exact ⟨_, error_of_fault settled' stopped, (tallied.atOperations most stopped).2⟩

end Interpreter

/-! ## The targets of a call -/

namespace Cast

variable {c : Cast α} {e : Effect α} {target : Option EntityId} {s s' : Execution α}

/-- Chooses the targets of an effect, if its conditions hold. -/
def choose (c : Cast α) (e : Effect α) (target : Option EntityId) :
    Run α (Option (List EntityId)) := do
  begin e
  let met ← c.conditionsHold target e.conditions
  if met then some <$> c.resolve e.target c.caster target else pure none

theorem choose_capped (most : Option Nat) : (c.capped most).choose e target = c.choose e target := by
  have same : (c.capped most).caster = c.caster := rfl
  unfold choose
  rw [conditionsHold_congr same]
  rfl

theorem begins_choose : (c.choose e target).Begins 0 := by
  have begun : (begin e).Begins 0 := by
    constructor
    intro s s' x ended
    unfold begin at ended
    cases id : e.id <;>
    · rw [id] at ended
      cases ended
      rfl
  have chosen (met : Bool) : (if met then some <$> c.resolve e.target c.caster target else pure none :
      Run α (Option (List EntityId))).Begins 0 := by
    split
    · exact (Begins.of_calm fun s => calm_resolve ..).bind fun ids => .pure _
    · exact .pure _
  exact begun.bind fun _ => (Begins.of_calm fun s => calm_conditionsHold ..).bind chosen

theorem weigh_of_chosen (immediate : e.timing = .immediate) {ids : List EntityId}
    (chosen : c.choose e target s = .ok (some ids) s') :
    c.weigh e target s = c.runOnTargets c.outermost e.operations ids s' := by
  obtain ⟨_, s₁, begun, rest⟩ := ok_of_bind chosen
  obtain ⟨met, s₂, asked, rest⟩ := ok_of_bind rest
  cases met with
  | false => cases rest
  | true =>
      obtain ⟨found, s₃, resolved, same⟩ := ok_of_bind rest
      cases same
      have now : c.request? e target = none := by
        unfold request?
        rw [immediate]
      unfold weigh
      rw [bind_ok begun, bind_ok asked, if_pos rfl, now]
      exact bind_ok resolved

theorem drawn_of_choose (anonymous : e.id = none) {ids : Option (List EntityId)}
    (chosen : c.choose e target s = .ok ids s') : s.Drawn s' := by
  obtain ⟨_, s₁, begun, rest⟩ := ok_of_bind chosen
  obtain ⟨met, s₂, asked, rest⟩ := ok_of_bind rest
  unfold begin at begun
  rw [anonymous] at begun
  cases begun
  have reads : (c.conditionsHold target e.conditions).Reads True s := reads_conditionsHold ..
  refine (reads.drawn asked).trans ?_
  cases met with
  | false =>
      cases rest
      exact .refl _
  | true =>
      obtain ⟨found, s₃, resolved, same⟩ := ok_of_bind rest
      cases same
      have looks : (c.resolve e.target c.caster target).Reads _ s₂ := reads_resolve ..
      exact looks.drawn resolved

end Cast

/-! ## Calls -/

namespace Interpreter

theorem ok_of_execute {i : Interpreter α} {e : Effect α} {context : Context} {w : World α}
    {clock : Clock} {r : Report α} (ended : (i.execute e context w clock).1 = .ok r) :
    ∃ s, (i.cast context.caster w clock).runTopLevel e context.target
      (i.start (.execute e context) w) = .ok () s ∧ { s.report with success := true } = r := by
  change (finish ((i.cast context.caster w clock).runTopLevel e context.target
    (i.start (.execute e context) w))).1 = .ok r at ended
  generalize (i.cast context.caster w clock).runTopLevel e context.target _ = result at ended
  cases result with
  | error fault s => cases ended
  | ok _ s => exact ⟨s, rfl, Except.ok.inj ended⟩

/-- A call whose operations only count succeeds, with their number. -/
theorem execute_idle {i : Interpreter α} {e : Effect α} (context : Context) {w : World α}
    {clock : Clock} {id : EntityId} {s : Execution α} {n k : Nat}
    (checked : e.check i.settings.vocabulary = .ok ()) (there : w.has context.caster = true)
    (immediate : e.timing = .immediate) (anonymous : e.id = none)
    (chosen : (i.cast context.caster w clock).choose e context.target
      (i.start (.execute e context) w) = .ok (some [id]) s)
    (free : i.settings.limits.entities = none)
    (idle : ((i.cast context.caster w clock).runOperations
      (i.cast context.caster w clock).outermost id e.operations).Idles [] n k) :
    ∃ r, (i.execute e context w clock).1 = .ok r ∧ r.operations = .ofNat n := by
  obtain ⟨stream, rfl⟩ := Cast.drawn_of_choose anonymous chosen
  have weighed : (i.cast context.caster w clock).runTopLevel e context.target
      (i.start (.execute e context) w) = (i.cast context.caster w clock).weigh e context.target
        (i.start (.execute e context) w) := Cast.runTopLevel_of_checked checked there
  rw [Cast.weigh_of_chosen immediate chosen,
    Cast.runOnTargets_idle free Std.ExtTreeSet.not_mem_empty idle] at weighed
  exact ⟨_, congrArg (fun result => (finish result).1) weighed, UInt32.zero_add _⟩

variable [Scalar.Counting α]

/-- **What a call costs.** Let an effect be made of actions, delays and repetitions with literal counts,
and let its conditions hold. A call that succeeds has begun the cost of its operations once for every
target, and reports this number as far as the 32-bit counter can hold it. Under a ceiling it succeeds if
and only if the cost is not above the ceiling or the ceiling is the largest number of the counter, and
then with the same result; otherwise it fails with that ceiling after as many operations as are allowed.
-/
theorem operations_cost (i : Interpreter α) (e : Effect α) (context : Context) (w : World α)
    (clock : Clock) (immediate : e.timing = .immediate) {cost : Nat}
    (costs : Operation.CostsAll e.operations cost) {ids : List EntityId} {s : Execution α}
    (chosen : (i.cast context.caster w clock).choose e context.target
      (i.start (.execute e context) w) = .ok (some ids) s)
    (timeless : i.settings.limits.timeout = none) :
    (∀ r, (i.execute e context w clock).1 = .ok r →
      r.operations.toNat = ids.length * cost % 2 ^ 32) ∧
    ∀ most r, ((i.capped none).execute e context w clock).1 = .ok r →
      ((∃ r', ((i.capped (some most)).execute e context w clock).1 = .ok r') ↔
        ids.length * cost ≤ most ∨ maxCount ≤ most) ∧
      (ids.length * cost ≤ most ∨ maxCount ≤ most →
        (i.capped (some most)).execute e context w clock =
          (i.capped none).execute e context w clock) ∧
      (most < ids.length * cost → most < maxCount → ∃ done,
        ((i.capped (some most)).execute e context w clock).1 = .error ⟨.operationLimit most, done⟩ ∧
          done.operations.toNat = most) := by
  have counted (j : Interpreter α) (same : (j.cast context.caster w clock).choose e context.target
      (j.start (.execute e context) w) = .ok (some ids) s) {s' : Execution α}
      (ran : (j.cast context.caster w clock).runTopLevel e context.target
        (j.start (.execute e context) w) = .ok () s') : s'.governor.begun = ids.length * cost := by
    rcases Cast.runTopLevel_cases _ e context.target _ with ⟨fault, refused⟩ | ⟨-, weighed⟩
    · rw [refused] at ran
      cases ran
    · rw [weighed, Cast.weigh_of_chosen immediate same] at ran
      have before := Cast.begins_choose.begun same
      have after := (Cast.begins_runOnTargets costs ids).begun ran
      rw [before] at after
      exact after.trans (Nat.zero_add _)
  refine ⟨fun r ended => ?_, fun most r ended => ?_⟩
  · obtain ⟨s', ran, rfl⟩ := ok_of_execute ended
    obtain ⟨last, nothing, performed⟩ := i.exists_settled (.execute e context) w clock
    obtain ⟨running, state⟩ := Moment.of_result_ok (performed.symm.trans ran)
    have tallied := (i.moment_tallied (.execute e context) w clock last).counted running
    rw [state] at tallied
    change s'.report.operations.toNat = _
    rw [tallied, ← counted i chosen ran]
    exact UInt32.toNat_ofNat'
  · obtain ⟨s', ran, -⟩ := ok_of_execute ended
    have total := counted (i.capped none) ((congrFun (Cast.choose_capped ..) _).trans chosen) ran
    obtain ⟨within, beyond⟩ := run_capped timeless (.execute e context) w clock most ran
    rw [total] at within beyond
    refine ⟨⟨fun ⟨r', ended'⟩ => ?_, fun room => ⟨r, ?_⟩⟩, within, beyond⟩
    · by_contra room
      obtain ⟨large, small⟩ := not_or.mp room
      obtain ⟨done, failed, -⟩ := beyond (Nat.lt_of_not_le large) (Nat.lt_of_not_le small)
      cases failed.symm.trans ended'
    · have same := within room
      exact (congrArg Prod.fst same).trans ended

/-! ## A volley -/

/-- An effect that damages its target eight times, in two rounds. -/
def volley : Effect Float where
  target := { shape := .single }
  operations :=
    [.iterate (.number 2)
      [.act (.dealDamage "fire" (.number 1)),
       .iterate (.number 3) [.act (.dealDamage "fire" (.number 1))]]]

theorem volley_costs : Operation.CostsAll volley.operations 11 := by
  have counts (n : Nat) (x : Float) (same : (x == Scalar.ofNat n) = true) (most : n ≤ maxCount) :
      (Expr.number x).Counts n := ⟨⟨x, rfl, same⟩, most⟩
  let shot : Operation Float := .act (.dealDamage "fire" (.number 1))
  have three : Operation.Costs (.iterate (.number 3) [shot]) 4 :=
    .iterate (counts 3 3 (by decide +kernel) (by decide)) (.cons (.act _) .nil)
  have round : Operation.CostsAll [shot, .iterate (.number 3) [shot]] 5 :=
    .cons (.act _) (.cons three .nil)
  exact .cons (.iterate (counts 2 2 (by decide +kernel) (by decide)) round) .nil

theorem duel_chosen : ∃ s, (novice.cast 1 duel).choose volley (some 2)
    (novice.start (.execute volley { caster := 1, target := some 2 }) duel) = .ok (some [2]) s := by
  have found : (match (novice.cast 1 duel).choose volley (some 2)
      (novice.start (.execute volley { caster := 1, target := some 2 }) duel) with
      | .ok ids _ => ids
      | .error .. => none) = some [2] := by decide +kernel
  split at found
  · next ids s ended => exact ⟨s, found ▸ ended⟩
  · cases found

/-- The effect costs eleven operations: a ceiling of ten ends the call, one of eleven does not. -/
theorem volley_capped :
    volley.timing = .immediate ∧ Operation.CostsAll volley.operations 11 ∧
      (∃ r, ((novice.capped none).execute volley { caster := 1, target := some 2 } duel).1 = .ok r) ∧
      (∃ r, ((novice.capped (some 11)).execute volley { caster := 1, target := some 2 } duel).1 =
        .ok r) ∧
      ∃ done, ((novice.capped (some 10)).execute volley { caster := 1, target := some 2 } duel).1 =
        .error ⟨.operationLimit 10, done⟩ ∧ done.operations.toNat = 10 := by
  obtain ⟨s, chosen⟩ := duel_chosen
  obtain ⟨r, free⟩ : ∃ r, ((novice.capped none).execute volley { caster := 1, target := some 2 }
      duel).1 = .ok r := by
    have succeeds : ((novice.capped none).execute volley { caster := 1, target := some 2 }
        duel).1.isOk = true := by decide +kernel
    cases ended : ((novice.capped none).execute volley { caster := 1, target := some 2 } duel).1 with
    | ok r => exact ⟨r, rfl⟩
    | error failure =>
        rw [ended] at succeeds
        cases succeeds
  obtain ⟨-, ceilings⟩ := operations_cost novice volley { caster := 1, target := some 2 } duel .still rfl
    volley_costs chosen rfl
  exact ⟨rfl, volley_costs, ⟨r, free⟩, (ceilings 11 r free).1.mpr (by decide),
    (ceilings 10 r free).2.2 (by decide) (by decide)⟩

/-- An effect of one operation more than the counter can tell. -/
def nightWatch : Effect Float where
  target := { shape := .single }
  operations := [vigil maxCount]

/-- A call begins more operations than the largest ceiling allows, and succeeds. -/
theorem nightWatch_unrefused :
    nightWatch.timing = .immediate ∧ Operation.CostsAll nightWatch.operations (2 ^ 32) ∧
      (∃ r, ((novice.capped none).execute nightWatch { caster := 1, target := some 2 } duel).1 =
        .ok r) ∧
      ∃ r, ((novice.capped (some maxCount)).execute nightWatch { caster := 1, target := some 2 }
        duel).1 = .ok r ∧ r.operations = 0 := by
  have costs : Operation.CostsAll nightWatch.operations (1 + maxCount + 0) :=
    .cons (vigil_costs (by decide +kernel) (Nat.le_refl _)) .nil
  have checked : nightWatch.check novice.settings.vocabulary = .ok () := by decide +kernel
  obtain ⟨s, chosen⟩ : ∃ s, (novice.cast 1 duel).choose nightWatch (some 2)
      (novice.start (.execute nightWatch { caster := 1, target := some 2 }) duel) =
        .ok (some [2]) s := duel_chosen
  have kept (most : Option Nat) (high : ∀ limit, most = some limit → maxCount ≤ limit) : ∃ r,
      ((novice.capped most).execute nightWatch { caster := 1, target := some 2 } duel).1 = .ok r ∧
        r.operations = .ofNat (1 + maxCount) := by
    have chosen' := (congrFun (Cast.choose_capped (c := novice.cast 1 duel) most) _).trans chosen
    exact execute_idle _ checked (by decide +kernel) rfl rfl chosen' rfl
      (Cast.idles_single (Cast.idles_vigil (by decide +kernel) (Nat.le_refl _) ⟨high, rfl, rfl, rfl⟩))
  obtain ⟨r, free, -⟩ := kept none nofun
  obtain ⟨r', ended, operations⟩ := kept (some maxCount) fun _ limit =>
    Nat.le_of_eq (Option.some.inj limit)
  exact ⟨rfl, costs, ⟨r, free⟩, r', ended, operations.trans (by decide)⟩

end Interpreter

end Grimoire
