import Grimoire.Proofs.Call.Path
import Grimoire.Proofs.Run.Idle
import Grimoire.Session
import Mathlib.Order.Monotone.Basic

/-! # What a call counts

The report of a call and its governor count in different places.  At every moment they agree, no
ceiling is passed, and a call that a ceiling ended has counted exactly as far as the ceiling.
-/

namespace Grimoire

variable {α : Type}

/-! ## Counters -/

/-- A counter that has not overflowed tells how many operations were begun. -/
theorem Governor.toNat_operations {g : Governor α} (few : g.begun ≤ maxCount) :
    g.operations.toNat = g.begun :=
  UInt32.toNat_ofNat_of_lt' (Nat.lt_succ_of_le few)

/-- What the report and the governor of a call have counted under some ceilings, when a fault may
have ended it. -/
structure Execution.Tallied (limits : Limits α) (fault : Option Fault) (s : Execution α) : Prop where
  distinct : s.report.affected.toList.Nodup
  mem_iff : ∀ id, id ∈ s.report.affected ↔ id ∈ s.governor.affected
  size : s.report.affected.size = s.governor.affected.size
  entities : Allows limits.entities s.report.affected.size
  operations : Allows limits.operations s.report.operations.toNat
  counted : fault = none → s.Counted
  begun : fault = none → ∀ most, limits.operations = some most → most < maxCount →
    s.governor.begun ≤ most
  atOperations : ∀ most, fault = some (.operationLimit most) →
    limits.operations = some most ∧ s.report.operations.toNat = most
  atEntities : ∀ most, fault = some (.entityLimit most) →
    limits.entities = some most ∧ s.report.affected.size = most

namespace Execution.Tallied

variable {limits : Limits α} {fault fault' : Option Fault} {s s' : Execution α}

theorem of_calm (h : s.Tallied limits fault) (calm : Undisturbed s s') :
    s'.Tallied limits fault where
  distinct := calm.report.affected ▸ h.distinct
  mem_iff id := by
    rw [calm.report.affected, calm.affected]
    exact h.mem_iff id
  size := by
    rw [calm.report.affected, calm.affected]
    exact h.size
  entities := calm.report.affected ▸ h.entities
  operations := calm.report.operations ▸ h.operations
  counted running := by
    unfold Execution.Counted Governor.operations
    rw [calm.report.operations, calm.begun]
    exact h.counted running
  begun running := by
    rw [calm.begun]
    exact h.begun running
  atOperations most ended := calm.report.operations ▸ h.atOperations most ended
  atEntities most ended := calm.report.affected ▸ h.atEntities most ended

theorem fails (h : s.Tallied limits none) (other : ∀ most, fault ≠ some (.operationLimit most))
    (other' : ∀ most, fault ≠ some (.entityLimit most)) : s.Tallied limits fault :=
  { h with
    counted := fun _ => h.counted rfl
    begun := fun _ => h.begun rfl
    atOperations := fun most ended => absurd ended (other most)
    atEntities := fun most ended => absurd ended (other' most) }

theorem plain (h : s.Tallied limits none) {raised : Fault} (plain : raised.IsPlain) :
    s.Tallied limits (some raised) := by
  refine h.fails ?_ ?_
  · rintro most ⟨⟩
    cases plain
  · rintro most ⟨⟩
    cases plain

theorem leave (h : s.Tallied limits fault) (b : Body) :
    Tallied limits fault { s with governor := b.leave s.governor } where
  distinct := h.distinct
  mem_iff id := by
    rw [Body.leave_affected]
    exact h.mem_iff id
  size := by
    rw [Body.leave_affected]
    exact h.size
  entities := h.entities
  operations := h.operations
  counted running := by
    unfold Execution.Counted Governor.operations
    rw [Body.leave_begun]
    exact h.counted running
  begun running := by
    rw [Body.leave_begun]
    exact h.begun running
  atOperations := h.atOperations
  atEntities := h.atEntities

theorem opened (h : s.Tallied limits none) (b : Body) : (b.opened s).Tallied limits none :=
  { h with }

theorem count (h : s.Tallied limits none)
    (room : Allows limits.operations s.overrun.governor.operations.toNat) :
    s.count.Tallied limits none where
  distinct := h.distinct
  mem_iff := h.mem_iff
  size := h.size
  entities := h.entities
  operations := by
    have same : s.count.report.operations = s.overrun.governor.operations := (h.counted rfl).count
    rw [same]
    exact room
  counted _ := (h.counted rfl).count
  begun _ most limit small := by
    have within := h.begun rfl most limit small
    have counter : s.overrun.governor.operations.toNat = s.governor.begun + 1 :=
      Governor.toNat_operations (Nat.succ_le_of_lt (Nat.lt_of_le_of_lt within small))
    exact Nat.le_trans (Nat.le_of_eq counter.symm) (room most limit)
  atOperations _ ended := by cases ended
  atEntities _ ended := by cases ended

/-- The report does not count the refused operation, so it stands at the ceiling. -/
theorem overrun (h : s.Tallied limits none) {most : Nat} (limit : limits.operations = some most)
    (full : most < s.overrun.governor.operations.toNat) :
    s.overrun.Tallied limits (some (.operationLimit most)) where
  distinct := h.distinct
  mem_iff := h.mem_iff
  size := h.size
  entities := h.entities
  operations := h.operations
  counted running := by cases running
  begun running := by cases running
  atOperations most' ended := by
    cases ended
    refine ⟨limit, ?_⟩
    have within : s.report.operations.toNat ≤ most := h.operations most limit
    have same : s.count.report.operations = s.overrun.governor.operations := (h.counted rfl).count
    have next : s.count.report.operations.toNat ≤ s.report.operations.toNat + 1 := by
      rw [show s.count.report.operations = s.report.operations + 1 from rfl, UInt32.toNat_add]
      exact Nat.mod_le ..
    rw [← same] at full
    change s.report.operations.toNat = most
    omega
  atEntities _ ended := by cases ended

theorem meet (h : s.Tallied limits none) {id : EntityId} (new : id ∉ s.governor.affected)
    (room : Allows limits.entities (s.governor.affected.size + 1)) :
    (s.meet id).Tallied limits none where
  distinct := by
    change (s.report.affected.push id).toList.Nodup
    have other : id ∉ s.report.affected := fun met => new ((h.mem_iff id).mp met)
    rw [Array.toList_push]
    refine List.nodup_append.mpr ⟨h.distinct, List.pairwise_singleton .., ?_⟩
    intro a ha b hb
    rw [List.mem_singleton] at hb
    exact fun same => other (Array.mem_toList_iff.mp (hb ▸ same ▸ ha))
  mem_iff other := by
    change other ∈ s.report.affected.push id ↔ other ∈ s.governor.affected.insert id
    rw [Array.mem_push, Std.ExtTreeSet.mem_insert, h.mem_iff other, Std.compare_eq_iff_eq]
    exact or_comm.trans (or_congr_left eq_comm)
  size := by
    have absent : ¬ s.governor.affected.contains id = true := new
    change (s.report.affected.push id).size = (s.governor.affected.insert id).size
    rw [Array.size_push, Std.ExtTreeSet.size_insert, if_neg absent, h.size]
  entities := by
    change Allows limits.entities (s.report.affected.push id).size
    rw [Array.size_push, h.size]
    exact room
  operations := h.operations
  counted := h.counted
  begun := h.begun
  atOperations _ ended := by cases ended
  atEntities _ ended := by cases ended

theorem crowded (h : s.Tallied limits none) {most : Nat} (limit : limits.entities = some most)
    (full : most < s.governor.affected.size + 1) :
    s.Tallied limits (some (.entityLimit most)) :=
  { h with
    counted := fun running => by cases running
    begun := fun running => by cases running
    atOperations := fun _ ended => by cases ended
    atEntities := fun most' ended => by
      cases ended
      refine ⟨limit, ?_⟩
      have within : s.report.affected.size ≤ most := h.entities most limit
      have same := h.size
      omega }

end Execution.Tallied

/-- Whether nothing has been counted yet. -/
structure Execution.Fresh (s : Execution α) : Prop where
  begun : s.governor.begun = 0
  affected : s.governor.affected = ∅
  operations : s.report.operations = 0
  met : s.report.affected = #[]
  chainCount : s.report.chainCount = 0

namespace Execution.Fresh

variable {limits : Limits α} {s s' : Execution α}

theorem tallied (h : s.Fresh) : s.Tallied limits none where
  distinct := by
    rw [h.met]
    exact List.nodup_nil
  mem_iff id := by
    rw [h.met, h.affected]
    exact iff_of_false (Array.not_mem_empty id) Std.ExtTreeSet.not_mem_empty
  size := by
    rw [h.met, h.affected]
    rfl
  entities := by
    rw [h.met]
    exact fun most _ => Nat.zero_le most
  operations := by
    rw [h.operations]
    exact fun most _ => Nat.zero_le most
  counted _ := by
    unfold Execution.Counted Governor.operations
    rw [h.operations, h.begun]
    rfl
  begun _ most _ _ := by
    rw [h.begun]
    exact Nat.zero_le most
  atOperations _ ended := by cases ended
  atEntities _ ended := by cases ended

end Execution.Fresh

namespace Moment

def Tallied (limits : Limits α) (m : Moment α) : Prop := m.state.Tallied limits m.fault

theorem Tallied.transition [Scalar α] {c : Cast α} {m m' : Moment α}
    (transition : c.Transition m m') (h : m.Tallied c.settings.limits) : m'.Tallied c.settings.limits := by
  cases transition with
  | idle | drop => exact h
  | close b => exact Execution.Tallied.leave h b
  | leads rest quiet leads calm => exact Execution.Tallied.of_calm h calm
  | fails rest quiet plain calm =>
      exact Execution.Tallied.plain (Execution.Tallied.of_calm h calm) plain
  | known => exact h
  | meets ids ops rest new room => exact Execution.Tallied.meet h new room
  | crowded ids ops rest new limit full => exact Execution.Tallied.crowded h limit full
  | counts target op ops rest time room => exact Execution.Tallied.count h room
  | overruns target op ops rest time limit full => exact Execution.Tallied.overrun h limit full
  | late => exact Execution.Tallied.fails h (by rintro _ ⟨⟩) (by rintro _ ⟨⟩)
  | opens inner rest room => exact Execution.Tallied.opened h _
  | refuses inner rest refused =>
      cases refused <;> exact Execution.Tallied.fails h (by rintro _ ⟨⟩) (by rintro _ ⟨⟩)

theorem begun_le_of_transition [Scalar α] {c : Cast α} {m m' : Moment α}
    (transition : c.Transition m m') : m.state.governor.begun ≤ m'.state.governor.begun := by
  cases transition with
  | leads rest quiet leads calm => exact Nat.le_of_eq calm.begun.symm
  | fails rest quiet plain calm => exact Nat.le_of_eq calm.begun.symm
  | counts | overruns => exact Nat.le_succ _
  | close b => exact Nat.le_of_eq (Body.leave_begun ..).symm
  | _ => exact Nat.le_refl _

theorem operations_le_of_transition [Scalar α] {c : Cast α} {m m' : Moment α}
    (tallied : m.Tallied c.settings.limits) (transition : c.Transition m m')
    (few : m'.state.governor.begun ≤ maxCount) :
    m.state.report.operations.toNat ≤ m'.state.report.operations.toNat := by
  cases transition with
  | leads rest quiet leads calm => rw [calm.report.operations]
  | fails rest quiet plain calm => rw [calm.report.operations]
  | @counts s target op ops rest time room =>
      have counted : s.Counted := tallied.counted rfl
      have before := Governor.toNat_operations (Nat.le_of_succ_le few)
      have after := Governor.toNat_operations few
      rw [← counted] at before
      rw [← counted.count] at after
      rw [before, after]
      exact Nat.le_succ _
  | _ => exact Nat.le_refl _

/-- Whether the bodies that are open are within the ceilings. -/
structure Shallow (limits : Limits α) (m : Moment α) : Prop where
  depth : Allows limits.depth m.bodies.length
  chainDepth : Allows limits.chainDepth m.chains.length

theorem Shallow.of_nil {limits : Limits α} {m : Moment α} (nothing : m.agenda = []) :
    m.Shallow limits := by
  have bodies : m.bodies = [] := bodies_of_nil nothing
  constructor
  · rw [bodies]
    exact fun most _ => Nat.zero_le most
  · unfold chains
    rw [bodies]
    exact fun most _ => Nat.zero_le most

/-- The governor counts the open bodies, so its ceilings are about them. -/
theorem Shallow.turn {limits : Limits α} {seeded : List String} {m m' : Moment α}
    (h : m.Shallow limits) (stacked : m.Stacked seeded) (turn : Turn limits m m') :
    m'.Shallow limits := by
  obtain ⟨depth, chainDepth⟩ := h
  unfold chains at chainDepth
  cases turn with
  | stays bodies place =>
      constructor
      · rw [bodies]
        exact depth
      · unfold chains
        rw [bodies]
        exact chainDepth
  | closes b bodies left =>
      rw [bodies, List.length_cons] at depth
      rw [bodies, Body.length_chains_cons] at chainDepth
      constructor
      · exact fun most limit => Nat.le_of_succ_le (depth most limit)
      · exact fun most limit => Nat.le_trans (Nat.le_add_right ..) (chainDepth most limit)
  | opens b bodies room entered =>
      constructor
      · rw [bodies, List.length_cons, ← stacked.depth]
        exact room.depth
      · unfold chains
        rw [bodies, Body.length_chains_cons, ← stacked.chainDepth]
        cases chain : b.isChain with
        | false =>
            rw [stacked.chainDepth]
            exact chainDepth
        | true => exact room.chains chain

/-- Whether the step from one moment to another opens the body of a chain. -/
def opensChain (m m' : Moment α) : Bool :=
  match m.agenda, m'.fault with
  | .enter b _ :: _, none => b.isChain
  | _, _ => false

theorem chainCount_of_transition [Scalar α] {c : Cast α} {m m' : Moment α}
    (transition : c.Transition m m') :
    m'.state.report.chainCount = m.state.report.chainCount + .ofNat (m.opensChain m').toNat := by
  have same (r : Report α) : r.chainCount = r.chainCount + .ofNat false.toNat :=
    (UInt32.add_zero _).symm
  cases transition with
  | @drop p rest fault s ordinary => cases p <;> exact same _
  | @leads p more s s' rest quiet leads calm =>
      have none : opensChain ⟨p :: rest, none, s⟩ ⟨more ++ rest, none, s'⟩ = false := by
        cases p with
        | enter => cases quiet
        | _ => rfl
      rw [none]
      exact calm.report.chainCount.trans (same _)
  | @fails p fault s s' rest quiet plain calm =>
      have none : opensChain ⟨p :: rest, none, s⟩ ⟨rest, some fault, s'⟩ = false := by
        cases p <;> rfl
      rw [none]
      exact calm.report.chainCount.trans (same _)
  | @opens b s inner rest room =>
      cases b with
      | chain => rfl
      | nested | trigger => exact same _
  | _ => exact same _

end Moment

/-! ## Calls -/

variable [Scalar α]

namespace Interpreter

variable (i : Interpreter α) (call : Call α) (w : World α) (clock : Clock)

/-- How many bodies of chains were opened up to a moment of a call. -/
def chainsOpened (n : Nat) : Nat :=
  (List.range n).countP fun k =>
    (i.moment call w clock k).opensChain (i.moment call w clock (k + 1))

theorem start_fresh : (i.start call w).Fresh := by
  cases call with
  | execute => exact ⟨rfl, rfl, rfl, rfl, rfl⟩
  | request q =>
      have report (work : Work α) : (startReport work).operations = 0 ∧
          (startReport work).affected = #[] ∧ (startReport work).chainCount = 0 := by
        cases work <;> exact ⟨rfl, rfl, rfl⟩
      obtain ⟨begun, met, chainCount⟩ := report q.work
      exact ⟨rfl, rfl, begun, met, chainCount⟩

theorem opening_fresh : (i.opening call w clock).state.Fresh := by
  have opening := i.opening_cases call w clock
  have fresh := i.start_fresh call w
  generalize i.opening call w clock = m at opening
  cases opening with
  | refused => exact fresh
  | stopped => exact { fresh with }
  | ready => exact ⟨rfl, rfl, fresh.operations, fresh.met, fresh.chainCount⟩

theorem opening_tallied : (i.opening call w clock).Tallied i.settings.limits := by
  have opening := i.opening_cases call w clock
  have tallied : (i.opening call w clock).state.Tallied i.settings.limits none :=
    (i.opening_fresh call w clock).tallied
  generalize i.opening call w clock = m at opening tallied
  cases opening with
  | refused unforeseen => exact tallied.plain unforeseen.1
  | stopped | ready => exact tallied

theorem moment_tallied (n : Nat) : (i.moment call w clock n).Tallied i.settings.limits :=
  moment_invariant (P := fun m => m.Tallied i.settings.limits) (i.opening_tallied call w clock)
    (fun _ transition h => h.transition transition) n

theorem moment_shallow (n : Nat) : (i.moment call w clock n).Shallow i.settings.limits := by
  induction n with
  | zero =>
      have opening := i.opening_cases call w clock
      change (i.opening call w clock).Shallow i.settings.limits
      generalize i.opening call w clock = m at opening
      cases opening with
      | refused | stopped => exact .of_nil rfl
      | ready prepared =>
          have zero (limit : Option Nat) : Allows limit 0 := fun most _ => Nat.zero_le most
          cases prepared <;> exact ⟨zero _, zero _⟩
  | succ n ih =>
      have transition := Cast.step_transition (i.cast call.caster w clock) (i.moment call w clock n)
      rcases i.moment_stacked call w clock n with nothing | stacked
      · rw [moment_succ, transition.eq_of_nil nothing]
        exact ih
      · exact ih.turn stacked
          (Moment.turn_of_transition (i.moment_sound call w clock n) transition)

theorem chainCount_eq (n : Nat) :
    (i.moment call w clock n).state.report.chainCount = .ofNat (i.chainsOpened call w clock n) := by
  induction n with
  | zero => exact (i.opening_fresh call w clock).chainCount
  | succ n ih =>
      have transition := Cast.step_transition (i.cast call.caster w clock) (i.moment call w clock n)
      have step := Moment.chainCount_of_transition transition
      rw [← moment_succ] at step
      rw [step, ih]
      unfold chainsOpened
      rw [List.range_succ, List.countP_append, List.countP_singleton, UInt32.ofNat_add]
      cases Moment.opensChain _ _ <;> rfl

theorem begun_mono : Monotone fun n => (i.moment call w clock n).state.governor.begun :=
  monotone_nat_of_le_succ fun _ => Moment.begun_le_of_transition (Cast.step_transition ..)

theorem operations_mono (few : ∀ n, (i.moment call w clock n).state.governor.begun ≤ maxCount) :
    Monotone fun n => (i.moment call w clock n).state.report.operations.toNat :=
  monotone_nat_of_le_succ fun n =>
    Moment.operations_le_of_transition (i.moment_tallied call w clock n) (Cast.step_transition ..)
      (few (n + 1))

theorem chainsOpened_mono : Monotone (i.chainsOpened call w clock) :=
  fun _ _ le => (List.range_sublist.mpr le).countP_le

theorem chainCount_mono (few : ∀ n, i.chainsOpened call w clock n ≤ maxCount) :
    Monotone fun n => (i.moment call w clock n).state.report.chainCount.toNat := by
  have exact' (n : Nat) : (i.moment call w clock n).state.report.chainCount.toNat =
      i.chainsOpened call w clock n := by
    rw [i.chainCount_eq call w clock n]
    exact UInt32.toNat_ofNat_of_lt' (Nat.lt_succ_of_le (few n))
  intro n n' le
  dsimp only
  rw [exact', exact']
  exact i.chainsOpened_mono call w clock le

/-- After the last moment no operation is begun, and no chain is opened. -/
theorem counts_le_of_last {i : Interpreter α} {call : Call α} {w : World α} {clock : Clock} {last : Nat}
    (nothing : (i.moment call w clock last).agenda = []) (n : Nat) :
    (i.moment call w clock n).state.governor.begun ≤
        (i.moment call w clock last).state.governor.begun ∧
      i.chainsOpened call w clock n ≤ i.chainsOpened call w clock last := by
  have settled (k : Nat) : i.moment call w clock (last + k) = i.moment call w clock last :=
    moment_of_last nothing k
  have opened (k : Nat) :
      i.chainsOpened call w clock (last + k) = i.chainsOpened call w clock last := by
    induction k with
    | zero => rfl
    | succ k ih =>
        have none (m : Moment α) : (i.moment call w clock (last + k)).opensChain m = false := by
          unfold Moment.opensChain
          rw [settled, nothing]
        rw [← ih, ← Nat.add_assoc]
        unfold chainsOpened
        rw [List.range_succ, List.countP_append, List.countP_singleton, none]
        rfl
  have later : n ≤ last + n := Nat.le_add_left n last
  constructor
  · have grown := i.begun_mono call w clock later
    dsimp only at grown
    rwa [settled] at grown
  · rw [← opened n]
    exact i.chainsOpened_mono call w clock later

/-- The report of a call is the one of its last moment, except that it says how the call ended. -/
theorem report_run {i : Interpreter α} {call : Call α} {w : World α} {clock : Clock} {n : Nat}
    (last : (i.moment call w clock n).agenda = []) :
    (i.run call w clock).1.report =
      { (i.moment call w clock n).state.report with
        success := (i.moment call w clock n).fault.isNone } := by
  rw [run_eq_of_last last]
  unfold finish Moment.result
  cases (i.moment call w clock n).fault <;> rfl

/-- What a failed call has done is what its last moment reports. -/
theorem done_of_run {i : Interpreter α} {call : Call α} {w : World α} {clock : Clock} {n : Nat}
    (last : (i.moment call w clock n).agenda = []) {failure : Failure α}
    (failed : (i.run call w clock).1 = .error failure) :
    failure.done =
      { (i.moment call w clock n).state.report with
        success := (i.moment call w clock n).fault.isNone } := by
  have report := report_run last
  rw [failed] at report
  exact report

theorem fault_of_run {i : Interpreter α} {call : Call α} {w : World α} {clock : Clock} {n : Nat}
    (last : (i.moment call w clock n).agenda = []) {failure : Failure α}
    (failed : (i.run call w clock).1 = .error failure) :
    (i.moment call w clock n).fault = some failure.fault := by
  rw [run_eq_of_last last] at failed
  unfold finish Moment.result at failed
  cases fault : (i.moment call w clock n).fault with
  | none =>
      rw [fault] at failed
      cases failed
  | some fault' =>
      rw [fault] at failed
      cases failed
      rfl

theorem error_of_fault {i : Interpreter α} {call : Call α} {w : World α} {clock : Clock} {n : Nat}
    (last : (i.moment call w clock n).agenda = []) {fault : Fault}
    (failed : (i.moment call w clock n).fault = some fault) :
    (i.run call w clock).1 =
      .error ⟨fault, { (i.moment call w clock n).state.report with success := false }⟩ := by
  rw [run_eq_of_last last]
  unfold finish Moment.result
  rw [failed]

/-- Ceilings hold at every moment of every call. The affected entities are listed once each, and neither
they nor the operations nor the open bodies exceed their ceilings. The report counts the chains that
were opened, as far as its 32-bit counter can hold that. A call that is ended by the ceiling of
operations or of entities has counted exactly as many as are allowed. -/
theorem ceilings_hold :
    (∀ n, let m := i.moment call w clock n
      m.state.report.affected.toList.Nodup ∧
      (∀ id, id ∈ m.state.report.affected ↔ id ∈ m.state.governor.affected) ∧
      (∀ most, i.settings.limits.entities = some most → m.state.report.affected.size ≤ most) ∧
      (∀ most, i.settings.limits.operations = some most → m.state.report.operations.toNat ≤ most) ∧
      (∀ most, i.settings.limits.depth = some most → m.bodies.length ≤ most) ∧
      (∀ most, i.settings.limits.chainDepth = some most → m.chains.length ≤ most) ∧
      m.state.report.chainCount.toNat = i.chainsOpened call w clock n % 2 ^ 32) ∧
    ∃ last, (i.moment call w clock last).agenda = [] ∧
      i.run call w clock = finish (i.moment call w clock last).result ∧
      let outcome := (i.run call w clock).1
      outcome.report.affected.toList.Nodup ∧
      (∀ id, id ∈ outcome.report.affected ↔
        id ∈ (i.moment call w clock last).state.governor.affected) ∧
      (∀ most, i.settings.limits.entities = some most → outcome.report.affected.size ≤ most) ∧
      (∀ most, i.settings.limits.operations = some most → outcome.report.operations.toNat ≤ most) ∧
      outcome.report.chainCount.toNat = i.chainsOpened call w clock last % 2 ^ 32 ∧
      (∀ most report, outcome = .error ⟨.operationLimit most, report⟩ →
        i.settings.limits.operations = some most ∧ report.operations.toNat = most) ∧
      ∀ most report, outcome = .error ⟨.entityLimit most, report⟩ →
        i.settings.limits.entities = some most ∧ report.affected.size = most := by
  have always (n : Nat) := i.moment_tallied call w clock n
  have shallow (n : Nat) := i.moment_shallow call w clock n
  have chains (n : Nat) : (i.moment call w clock n).state.report.chainCount.toNat =
      i.chainsOpened call w clock n % 2 ^ 32 := by
    rw [i.chainCount_eq call w clock n, UInt32.toNat_ofNat']
  refine ⟨fun n => ?_, ?_⟩
  · exact ⟨(always n).distinct, (always n).mem_iff, (always n).entities, (always n).operations,
      (shallow n).depth, (shallow n).chainDepth, chains n⟩
  · obtain ⟨last, nothing, run⟩ := i.exists_last call w clock
    have report := report_run nothing
    have tallied := always last
    refine ⟨last, nothing, run, ?_, ?_, ?_, ?_, ?_, ?_, ?_⟩
    · rw [report]
      exact tallied.distinct
    · rw [report]
      exact tallied.mem_iff
    · rw [report]
      exact tallied.entities
    · rw [report]
      exact tallied.operations
    · rw [report]
      exact chains last
    · intro most done failed
      have same : done = _ := done_of_run nothing failed
      rw [same]
      exact tallied.atOperations most (fault_of_run nothing failed)
    · intro most done failed
      have same : done = _ := done_of_run nothing failed
      rw [same]
      exact tallied.atEntities most (fault_of_run nothing failed)

/-- A request whose operations only count succeeds, with their number. -/
theorem request_idle {i : Interpreter α} {caster target : EntityId} {ops : List (Operation α)}
    {w : World α} (clock : Clock) {n k : Nat} (there : w.has target = true)
    (free : i.settings.limits.entities = none)
    (idle : ((i.cast caster w clock).runOperations (i.cast caster w clock).outermost target
      ops).Idles [] n k) :
    let q : Request α :=
      { caster := caster, target := none, dueTick := 0, work := .operations target ops }
    ∃ r, i.run (.request q) w clock = (.ok r, w) ∧ r.operations = .ofNat n ∧
      r.chainCount = .ofNat k := by
  intro q
  have ran := Cast.runOnTargets_idle (s := i.start (.request q) w) free Std.ExtTreeSet.not_mem_empty
    idle
  have worked : (i.cast caster w clock).runWork none (.operations target ops)
      (i.start (.request q) w) = .ok () (((i.start (.request q) w).meet target).idled n k) :=
    (congrFun (if_pos there) (i.start (.request q) w)).trans ran
  exact ⟨_, congrArg finish worked, UInt32.zero_add _, UInt32.zero_add _⟩

/-- An interpreter without effects that runs no more than so many operations in a call. -/
def frugal (most : Nat) : Interpreter Float where
  settings := { Settings.standard with limits := { operations := some most } }

def decideTwice : Call Float :=
  .request
    { caster := 1
      target := none
      dueTick := 0
      work := .operations 1
        [.conditional (.bool true) [] none, .conditional (.bool true) [] none] }

/-- With one operation allowed, the second one is refused, and the report counts one. -/
theorem decideTwice_refused :
    let outcome := ((frugal 1).run decideTwice lonely .still).1
    outcome = .error ⟨.operationLimit 1, outcome.report⟩ ∧ outcome.report.operations.toNat = 1 ∧
      ∀ n, ((frugal 1).moment decideTwice lonely .still n).state.report.operations.toNat ≤ 1 := by
  have ceilings := ceilings_hold (frugal 1) decideTwice lonely .still
  obtain ⟨always, last, -, -, -, -, -, -, -, exact', -⟩ := ceilings
  have refused : ((frugal 1).run decideTwice lonely .still).1 = .error ⟨.operationLimit 1,
      ((frugal 1).run decideTwice lonely .still).1.report⟩ := rfl
  exact ⟨refused, (exact' 1 _ refused).2, fun n => (always n).2.2.2.1 1 rfl⟩

/-! ## An echo -/

def echo : Effect Float where
  id := some "echo"
  target := { shape := .self }
  operations := [hour]
  conditions := [.bool false]

def canyon : Interpreter Float where
  settings := .standard
  book := ⟨(∅ : NameMap (Effect Float)).insert "echo" echo⟩

def shout : Operation Float := .chain "echo" { shape := .self }

def shouts : Call Float :=
  .request
    { caster := 1
      target := none
      dueTick := 0
      work := .operations 1 [.iterate (.number (Scalar.ofNat maxCount)) [shout], shout] }

theorem canyon_open : canyon.settings.limits.Open := ⟨nofun, rfl, rfl, rfl⟩

theorem require_echo : canyon.book.require "echo" = .ok echo := by
  unfold Spellbook.require
  rw [if_pos (by decide +kernel)]
  have found : canyon.book.get? "echo" = some echo := Std.ExtTreeMap.getElem?_insert_self
  rw [found]

/-- So many chains are entered that the counter is back at zero. -/
theorem shouts_uncounted :
    (canyon.run shouts lonely .still).1.report.chainCount = 0 ∧
      ∃ last, (canyon.moment shouts lonely .still last).agenda = [] ∧
        0 < canyon.chainsOpened shouts lonely .still last := by
  have rounds : (Expr.number (Scalar.ofNat maxCount : Float)).Counts maxCount :=
    ⟨⟨_, rfl, by decide +kernel⟩, Nat.le_refl _⟩
  have once (n : Nat) : ((canyon.cast 1 lonely).runOperation
      ((canyon.cast 1 lonely).reentry (n + 1)) 1 shout).Idles [] 1 1 :=
    Cast.idles_chained canyon_open List.not_mem_nil require_echo (by decide +kernel) rfl
  have size : canyon.book.size = 0 + 1 := by decide +kernel
  have all : ((canyon.cast 1 lonely).runOperations (canyon.cast 1 lonely).outermost 1
      [.iterate (.number (Scalar.ofNat maxCount)) [shout], shout]).Idles []
        (1 + maxCount * 1 + 1) (maxCount * 1 + 1) := by
    unfold Cast.outermost
    rw [show (canyon.cast 1 lonely).book.size = 0 + 1 from size, Cast.runOperations]
    exact (Cast.idles_iterate canyon_open rounds fun _ => Cast.idles_single (once 0)).bind
      (Cast.idles_single (once 0))
  obtain ⟨r, ran, -, chains⟩ := request_idle .still (by decide +kernel) rfl all
  obtain ⟨last, nothing, -⟩ := canyon.exists_last shouts lonely .still
  refine ⟨?_, last, nothing, ?_⟩
  · have report : (canyon.run shouts lonely .still).1.report = r := by
      rw [show canyon.run shouts lonely .still = _ from ran]
      rfl
    rw [report, chains]
    decide
  · have first : 0 < canyon.chainsOpened shouts lonely .still 9 := by decide +kernel
    exact Nat.lt_of_lt_of_le first (counts_le_of_last nothing 9).2

end Interpreter

end Grimoire
