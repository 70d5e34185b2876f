import Grimoire.Proofs.Call.Agenda
import Grimoire.Proofs.World.Numbering

/-! # Steps that act

Among all that a step can do, only an action touches the world, the budgets and what the report says
about the two.  `Moment.Acts` tells these steps from the others, for proofs about what actions add up
to over a call.
-/

namespace Grimoire

variable {α : Type}

/-- Whether nothing has been done that only actions do. -/
structure Execution.Alike (s s' : Execution α) : Prop where
  world : s'.world = s.world
  damage : s'.governor.damage = s.governor.damage
  spawns : s'.governor.spawns = s.governor.spawns
  damageDealt : s'.report.damageDealt = s.report.damageDealt
  spawnCount : s'.report.spawnCount = s.report.spawnCount
  clamps : s'.report.clamps = s.report.clamps
  changes : s'.report.changes = s.report.changes
  statuses : s'.report.statuses = s.report.statuses
  spawned : s'.report.spawned = s.report.spawned
  events : s'.report.events = s.report.events

theorem Execution.Alike.refl (s : Execution α) : s.Alike s :=
  ⟨rfl, rfl, rfl, rfl, rfl, rfl, rfl, rfl, rfl, rfl⟩

theorem Execution.Drawn.alike {s s' : Execution α} (h : s.Drawn s') : s.Alike s' := by
  obtain ⟨stream, rfl⟩ := h
  exact ⟨rfl, rfl, rfl, rfl, rfl, rfl, rfl, rfl, rfl, rfl⟩

theorem Body.alike_leave (b : Body) (s : Execution α) :
    s.Alike { s with governor := b.leave s.governor } := by
  cases b <;> exact ⟨rfl, rfl, rfl, rfl, rfl, rfl, rfl, rfl, rfl, rfl⟩

variable [Scalar α]

/-- Whether a step performs an action, or does nothing that actions do. -/
inductive Moment.Acts (c : Cast α) (m m' : Moment α) : Prop where
  | rests (alike : m.state.Alike m'.state)
  | strikes {target action rest s₁} (agenda : m.agenda = .dispatch target (.act action) :: rest)
      (running : m.fault = none) (drawn : m.state.Drawn s₁)
      (stroke : Stroke c target (c.demand? target action m.state) s₁ m'.state)

namespace Cast

variable {c : Cast α} {m m' : Moment α}

theorem acts_of_transition (h : c.Transition m m') : m.Acts c m' := by
  cases h with
  | close b => exact .rests (b.alike_leave _)
  | @leads p more s s' rest quiet leads calm does =>
      obtain ⟨s₁, drawn, deed, -⟩ := does
      generalize asked : p.demand? c s = demand at deed
      cases deed with
      | nothing => exact .rests drawn.alike
      | strike stroke =>
          subst asked
          exact .strikes rfl rfl drawn stroke
      | stop | request | delay => exact .rests { drawn.alike with }
  | fails rest quiet plain calm drawn => exact .rests drawn.alike
  | meets | counts | overruns | opens =>
      exact .rests ⟨rfl, rfl, rfl, rfl, rfl, rfl, rfl, rfl, rfl, rfl⟩
  | _ => exact .rests (.refl _)

/-- When the entry that is taken asks a budget for something, it is carried out. -/
theorem step_of_demand {target : EntityId} {action : Action α} {s : Execution α} {d : Demand α}
    (rest : List (Pending α)) (h : c.demand? target action s = some d) :
    ∃ s' s₁, c.step ⟨.dispatch target (.act action) :: rest, none, s⟩ = ⟨rest, none, s'⟩ ∧
      s.Drawn s₁ ∧ Stroke c target (some d) s₁ s' := by
  obtain ⟨s', performed⟩ := perform_of_demand? h
  obtain ⟨s₁, drawn, stroke⟩ := (c.strikes_perform target action s).ok performed
  rw [h] at stroke
  have unfolds : (Pending.dispatch target (.act action)).unfold c s = .ok [] s' :=
    Run.bind_ok performed
  exact ⟨s', s₁, step_ok rest unfolds, drawn, stroke⟩

end Cast

namespace Interpreter

variable (i : Interpreter α) (call : Call α) (w : World α) (clock : Clock)

theorem moment_acts (n : Nat) :
    (i.moment call w clock n).Acts (i.cast call.caster w clock) (i.moment call w clock (n + 1)) :=
  Cast.acts_of_transition (Cast.step_transition ..)

theorem opening_alike : (i.start call w).Alike (i.opening call w clock).state := by
  have opening := i.opening_cases call w clock
  generalize i.opening call w clock = m at opening
  cases opening with
  | refused => exact .refl _
  | stopped => exact ⟨rfl, rfl, rfl, rfl, rfl, rfl, rfl, rfl, rfl, rfl⟩
  | ready =>
      have fresh : (i.start call w).governor = .start := by cases call <;> rfl
      refine ⟨rfl, ?_, ?_, rfl, rfl, rfl, rfl, rfl, rfl, rfl⟩
      · rw [fresh]
        rfl
      · rw [fresh]
        rfl

/-- An invariant of single moves, and of everything that is no action, is an invariant of calls. -/
theorem moment_of_moves {P : Execution α → Prop}
    (alike : ∀ {s s'}, s.Alike s' → P s → P s')
    (move : ∀ {target s s'}, Move (i.cast call.caster w clock) target s s' → P s → P s')
    (h : P (i.start call w)) (n : Nat) : P (i.moment call w clock n).state := by
  induction n with
  | zero => exact alike (i.opening_alike call w clock) h
  | succ n ih =>
      cases i.moment_acts call w clock n with
      | rests same => exact alike same ih
      | strikes agenda running drawn stroke =>
          have moves := stroke.moves
          generalize (i.moment call w clock (n + 1)).state = s' at moves
          clear stroke
          induction moves with
          | refl => exact alike drawn.alike ih
          | tail _ last ih => exact move last ih

theorem moment_numbered (numbered : w.Numbered) (n : Nat) :
    (i.moment call w clock n).state.world.Numbered := by
  refine i.moment_of_moves call w clock (P := fun s => s.world.Numbered) ?_ Move.numbered ?_ n
  · intro s s' alike numbered
    rw [alike.world]
    exact numbered
  · rw [i.start_world]
    exact numbered

end Interpreter

end Grimoire
