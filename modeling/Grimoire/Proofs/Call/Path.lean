import Grimoire.Proofs.Call.Course

/-! # The path is a call stack

At every moment of a call the governor's path is the effect that the call began with, below the
effects of the chains and triggers that are open, and none is on it twice.  Its depths count the open
bodies.  So an effect is refused for a cycle exactly when it is being run, and never because it was
run before.
-/

namespace Grimoire

variable {α : Type}

/-! ## The invariant -/

namespace Body

theorem effects_cons (b : Body) (bodies : List Body) :
    (b :: bodies).filterMap effect? = b.effect?.toList ++ bodies.filterMap effect? := by
  cases b <;> rfl

theorem length_chains_cons (b : Body) (bodies : List Body) :
    ((b :: bodies).filter isChain).length = (bodies.filter isChain).length + b.isChain.toNat := by
  cases b <;> rfl

end Body

/-- The governor counts the bodies that are open, and its path lists their effects above those that
a call began with. -/
structure Governor.Stacked (seeded : List String) (bodies : List Body) (g : Governor α) : Prop where
  path : g.path = bodies.filterMap Body.effect? ++ seeded
  nodup : g.path.Nodup
  depth : g.depth = bodies.length
  chainDepth : g.chainDepth = (bodies.filter Body.isChain).length

namespace Governor.Stacked

variable {seeded : List String} {bodies : List Body} {b : Body}

theorem of_samePlace {g g' : Governor α} (h : g.Stacked seeded bodies) (place : g.SamePlace g') :
    g'.Stacked seeded bodies where
  path := place.path.trans h.path
  nodup := place.path ▸ h.nodup
  depth := place.depth.trans h.depth
  chainDepth := place.chainDepth.trans h.chainDepth

theorem opened {s : Execution α} {limits : Limits α} (h : s.governor.Stacked seeded bodies)
    (room : b.Admitted limits s.governor) :
    (b.opened s).governor.Stacked seeded (b :: bodies) where
  path := by
    rw [Body.effects_cons, List.append_assoc, ← h.path]
    rfl
  nodup := by
    change (b.effect?.toList ++ s.governor.path).Nodup
    cases runs : b.effect? with
    | none => exact h.nodup
    | some id => exact List.nodup_cons.mpr ⟨room.fresh id runs, h.nodup⟩
  depth := congrArg (· + 1) h.depth
  chainDepth := by
    rw [Body.length_chains_cons, ← h.chainDepth]
    rfl

theorem closed {g : Governor α} (h : g.Stacked seeded (b :: bodies)) :
    (b.leave g).Stacked seeded bodies := by
  have top : g.path = b.effect?.toList ++ (bodies.filterMap Body.effect? ++ seeded) := by
    rw [h.path, Body.effects_cons, List.append_assoc]
  have below := Body.leave_path top
  constructor
  · exact below
  · have nodup := h.nodup
    rw [top] at nodup
    rw [below]
    exact (List.nodup_append.mp nodup).2.1
  · rw [Body.leave_depth, h.depth, List.length_cons, Nat.add_sub_cancel]
  · rw [Body.leave_chainDepth, h.chainDepth, Body.length_chains_cons, Nat.add_sub_cancel]

end Governor.Stacked

namespace Moment

/-- What a step does to the open bodies: nothing, or it closes the innermost one or opens one. -/
inductive Turn (limits : Limits α) (m m' : Moment α) : Prop where
  | stays (bodies : m'.bodies = m.bodies)
      (place : m.state.governor.SamePlace m'.state.governor)
  | closes (b) (bodies : m.bodies = b :: m'.bodies)
      (left : m'.state.governor = b.leave m.state.governor)
  | opens (b) (bodies : m'.bodies = b :: m.bodies) (room : b.Admitted limits m.state.governor)
      (entered : m'.state = b.opened m.state)

theorem turn_of_transition [Scalar α] {c : Cast α} {m m' : Moment α} (sound : m.Sound c)
    (transition : c.Transition m m') : Turn c.settings.limits m m' := by
  cases transition with
  | idle => exact .stays rfl (.refl _)
  | drop rest fault s ordinary => exact .stays (bodiesOf_cons ordinary rest).symm (.refl _)
  | close b rest fault s => exact .closes b rfl rfl
  | @leads p more s s' rest quiet leads calm =>
      refine .stays ?_ calm.place
      change bodiesOf (more ++ rest) = bodiesOf (p :: rest)
      rw [bodiesOf_append, leads.bodiesOf_eq, bodiesOf_cons (Pending.body?_of_isQuiet quiet),
        List.nil_append]
  | fails rest quiet plain calm =>
      exact .stays (bodiesOf_cons (Pending.body?_of_isQuiet quiet) rest).symm calm.place
  | known | crowded | late | refuses => exact .stays rfl (.refl _)
  | meets | counts | overruns => exact .stays rfl ⟨rfl, rfl, rfl⟩
  | @opens b s inner rest room =>
      have runs : b.Runs c inner := sound _ List.mem_cons_self
      refine .opens b ?_ room rfl
      change bodiesOf (inner :: .close b :: rest) = b :: bodiesOf rest
      rw [bodiesOf_cons runs.body?_eq, bodiesOf_close]

/-- Whether the governor's place is the stack of the open bodies. -/
def Stacked (seeded : List String) (m : Moment α) : Prop :=
  m.state.governor.Stacked seeded m.bodies

theorem Stacked.turn {limits : Limits α} {seeded : List String} {m m' : Moment α}
    (h : m.Stacked seeded) (turn : Turn limits m m') : m'.Stacked seeded := by
  unfold Stacked at h ⊢
  cases turn with
  | stays bodies place =>
      rw [bodies]
      exact h.of_samePlace place
  | closes b bodies left =>
      rw [bodies] at h
      rw [left]
      exact h.closed
  | opens b bodies room entered =>
      rw [bodies, entered]
      exact h.opened room

end Moment

theorem Call.nodup_seeded (call : Call α) : call.seeded.Nodup := by
  have single (id : Option String) : id.toList.Nodup := by
    cases id <;> simp
  unfold seeded
  split
  · exact single _
  · split
    · exact single _
    · exact List.nodup_nil

variable [Scalar α]

theorem Cast.step_enter_cycle_iff (c : Cast α) {b : Body} {id : String} (runs : b.effect? = some id)
    (inner : Pending α) (rest : List (Pending α)) (s : Execution α) :
    (c.step ⟨.enter b inner :: rest, none, s⟩).fault = some (.chainLimit id .cycle) ↔
      id ∈ s.governor.path := by
  rcases b.admitted_or_refused c.settings.limits s.governor with room | ⟨fault, refused⟩
  · rw [step_ok rest (Run.bind_ok (enter_ok room))]
    have fresh : id ∉ s.governor.path := room.fresh id runs
    exact iff_of_false nofun fresh
  · rw [step_error rest (Run.bind_error (enter_refused refused))]
    cases refused with
    | @cycle b id' runs' running =>
        cases runs.symm.trans runs'
        exact iff_of_true rfl running
    | chains fresh limit full =>
        cases runs
        exact iff_of_false (by simp) fresh
    | depth fresh chains limit full =>
        exact iff_of_false (by simp) (fresh id runs)

namespace Interpreter

/-- While anything is left to be done, the governor's place is the stack of the open bodies. -/
theorem moment_stacked (i : Interpreter α) (call : Call α) (w : World α) (clock : Clock) (n : Nat) :
    (i.moment call w clock n).agenda = [] ∨ (i.moment call w clock n).Stacked call.seeded := by
  refine moment_invariant (P := fun m => m.agenda = [] ∨ m.Stacked call.seeded) ?_ ?_ n
  · have opening := i.opening_cases call w clock
    generalize i.opening call w clock = m at opening
    cases opening with
    | refused | stopped => exact .inl rfl
    | ready prepared =>
        right
        have nodup : (i.seed call w).governor.path.Nodup := call.nodup_seeded
        cases prepared <;> exact ⟨rfl, nodup, rfl, rfl⟩
  · intro m m' sound transition h
    rcases h with nothing | stacked
    · exact .inl ((transition.eq_of_nil nothing) ▸ nothing)
    · exact .inr (stacked.turn (Moment.turn_of_transition sound transition))

/-- The path is a call stack. Depths and path are the same before and after a list of operations or a
single one, however it ends, and a body that is refused changes neither. At every moment of a call, up
to the one where it ends, the path consists of the effects of the open chains and triggers above the
effect that was called, without repetition, and the depths count the open bodies. A chain or trigger is
refused as a cycle exactly if its effect is on the path. -/
theorem path_eq_call_stack (i : Interpreter α) (call : Call α) (w : World α) (clock : Clock) :
    (∀ (c : Cast α) (levels : Nat) (target : EntityId) (s : Execution α),
      (∀ ops, s.governor.SamePlace
        (Run.last (c.runOperations (c.reentry levels) target ops s)).governor) ∧
      (∀ op, s.governor.SamePlace
        (Run.last (c.runOperation (c.reentry levels) target op s)).governor) ∧
      ∀ b fault s', c.enter b s = .error fault s' → s' = s) ∧
    (∃ last, (i.moment call w clock last).agenda = [] ∧
      i.run call w clock = finish (i.moment call w clock last).result) ∧
    (∀ n, (i.moment call w clock n).agenda ≠ [] →
      let m := i.moment call w clock n
      m.state.governor.path = m.effects ++ call.seeded ∧
      (m.effects ++ call.seeded).Nodup ∧
      m.state.governor.depth = m.bodies.length ∧
      m.state.governor.chainDepth = m.chains.length) ∧
    (∀ n b inner rest id, (i.moment call w clock n).fault = none →
      (i.moment call w clock n).agenda = .enter b inner :: rest → b.effect? = some id →
      ((i.moment call w clock (n + 1)).fault = some (.chainLimit id .cycle) ↔
        id ∈ (i.moment call w clock n).effects ++ call.seeded)) := by
  refine ⟨?_, i.exists_last call w clock, ?_, ?_⟩
  · intro c levels target s
    refine ⟨fun ops => ?_, fun op => ?_, ?_⟩
    · exact (c.balanced_runOperations levels target ops).place s
    · exact (c.balanced_runOperation levels target op).place s
    · intro b fault s' h
      rcases b.admitted_or_refused c.settings.limits s.governor with room | ⟨fault', refused⟩
      · rw [Cast.enter_ok room] at h
        cases h
      · rw [Cast.enter_refused refused] at h
        cases h
        rfl
  · intro n left m
    rcases i.moment_stacked call w clock n with nothing | stacked
    · exact absurd nothing left
    · exact ⟨stacked.path, stacked.path ▸ stacked.nodup, stacked.depth, stacked.chainDepth⟩
  · intro n b inner rest id running agenda runs
    have stacked := (i.moment_stacked call w clock n).resolve_left (by simp [agenda])
    have path : (i.moment call w clock n).effects ++ call.seeded =
        (i.moment call w clock n).state.governor.path := stacked.path.symm
    rw [path, moment_succ]
    generalize i.moment call w clock n = m at running agenda
    obtain ⟨agenda', fault, s⟩ := m
    cases running
    cases agenda
    exact Cast.step_enter_cycle_iff _ runs inner rest s

/-- An interpreter that knows one effect, which triggers itself. -/
def ouroboros : Interpreter Float where
  settings := .standard
  book := ⟨.ofPairs [("ember", {
    id := some "ember"
    target := { shape := .self }
    operations := [.trigger "ember"] })]⟩

def kindle : Call Float :=
  .request { caster := 1, target := none, dueTick := 0, work := .operations 1 [.trigger "ember"] }

def lonely : World Float := (World.create .empty "wisp").2

/-- The effect triggers itself, which is refused as a cycle. -/
theorem kindle_refused :
    let m := ouroboros.moment kindle lonely .still
    (m 7).agenda ≠ [] ∧ (m 7).fault = none ∧ (m 7).effects = ["ember"] ∧
      (m 7).state.governor.depth = 1 ∧ (m 8).fault = some (.chainLimit "ember" .cycle) := by
  have stack := path_eq_call_stack ouroboros kindle lonely .still
  have left : (ouroboros.moment kindle lonely .still 7).agenda ≠ [] := List.cons_ne_nil _ _
  obtain ⟨-, -, depth, -⟩ := stack.2.2.1 7 left
  have cycle := stack.2.2.2 7 (.trigger "ember") _ _ "ember" rfl rfl rfl
  exact ⟨left, rfl, rfl, depth, cycle.mpr List.mem_cons_self⟩

end Interpreter

end Grimoire
