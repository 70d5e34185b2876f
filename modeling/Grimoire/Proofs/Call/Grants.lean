import Grimoire.Proofs.Call.Account
import Grimoire.Proofs.Run.Grants

/-! # Ceilings of damage and of spawns

A ceiling of damage or of spawns is there for a call as a whole, and ends no call: an action that asks
for more than is left is granted what is left, and where that is less than it asked for, the report has
a clamp.
-/

namespace Grimoire

theorem Execution.Alike.sameBudget {α : Type} {s s' : Execution α} (h : s.Alike s') :
    s.SameBudget s' :=
  ⟨h.damage, h.spawns, h.damageDealt, h.spawnCount, h.clamps⟩

variable {α : Type} [Scalar α]

/-! ## Demands -/

theorem Cast.not_neg_of_demand? {c : Cast α} {target : EntityId} {action : Action α}
    {s : Execution α} {requested : α} (h : c.demand? target action s = some (.damage requested)) :
    ¬ requested < 0 := by
  unfold Cast.demand? at h
  split at h
  · next demand s' asked =>
      subst h
      cases action with
      | dealDamage =>
          obtain ⟨_, _, -, rest⟩ := Run.ok_of_bind asked
          obtain ⟨amount, _, -, answer⟩ := Run.ok_of_bind rest
          intro negative
          by_cases below : amount < 0
          · rw [if_pos below] at answer
            cases answer
          · rw [if_neg below] at answer
            cases answer
            exact below negative
      | spawnEntity | spawnItem =>
          obtain ⟨_, _, -, rest⟩ := Run.ok_of_bind asked
          obtain ⟨_, _, -, answer⟩ := Run.ok_of_bind rest
          cases answer
      | _ => cases asked
  · cases h

namespace Moment

/-- What the step that follows a moment asks of a budget, and for which target. -/
def demand? (c : Cast α) (m : Moment α) : Option (EntityId × Demand α) :=
  match m.fault, m.agenda with
  | none, .dispatch target (.act action) :: _ =>
      (c.demand? target action m.state).map fun demand => (target, demand)
  | _, _ => none

def grant? (c : Cast α) (m : Moment α) : Option (Grant α) :=
  (m.demand? c).map fun (target, demand) =>
    m.state.governor.answer c.settings.limits target demand

variable {c : Cast α} {m m' : Moment α}

theorem Acts.sameBudget (h : m.Acts c m') (nothing : m.grant? c = none) :
    m.state.SameBudget m'.state := by
  cases h with
  | rests alike => exact alike.sameBudget
  | @strikes target action rest s₁ agenda running drawn stroke =>
      have unasked : c.demand? target action m.state = none := by
        simpa only [grant?, demand?, running, agenda, Option.map_eq_none_iff] using nothing
      rw [unasked] at stroke
      exact (Execution.SameBudget.of_drawn drawn).trans stroke.sameBudget

theorem step_of_demand? {target : EntityId} {d : Demand α} (h : m.demand? c = some (target, d)) :
    (c.step m).fault = none ∧ (c.step m).agenda = m.agenda.tail ∧
      ∃ s₁, m.state.Drawn s₁ ∧ Stroke c target (some d) s₁ (c.step m).state := by
  obtain ⟨agenda, fault, s⟩ := m
  unfold demand? at h
  split at h
  · next target' action rest running listed =>
      obtain ⟨d', asked, same⟩ := Option.map_eq_some_iff.mp h
      cases same
      cases running
      cases listed
      obtain ⟨s', s₁, stepped, drawn, stroke⟩ := Cast.step_of_demand rest asked
      rw [stepped]
      exact ⟨rfl, rfl, s₁, drawn, stroke⟩
  · cases h

theorem not_neg_of_demand? {target : EntityId} {requested : α}
    (h : m.demand? c = some (target, .damage requested)) : ¬ requested < 0 := by
  unfold demand? at h
  split at h
  · obtain ⟨d, asked, same⟩ := Option.map_eq_some_iff.mp h
    cases same
    exact Cast.not_neg_of_demand? asked
  · cases h

end Moment

/-! ## Calls -/

namespace Interpreter

variable (i : Interpreter α) (call : Call α) (w : World α) (clock : Clock)

/-- What the first steps of a call are granted, in order. -/
def grants (n : Nat) : List (Grant α) :=
  (List.range n).filterMap fun k =>
    (i.moment call w clock k).grant? (i.cast call.caster w clock)

theorem grants_succ (n : Nat) :
    i.grants call w clock (n + 1) = i.grants call w clock n ++
      ((i.moment call w clock n).grant? (i.cast call.caster w clock)).toList := by
  unfold grants
  rw [List.range_succ, List.filterMap_append]
  cases granted : (i.moment call w clock n).grant? (i.cast call.caster w clock) <;>
    simp [granted]

theorem start_spent : (i.start call w).Spent i.settings.limits [] := by
  have blank := i.start_blank call w
  have governor : (i.start call w).governor = .start := by cases call <;> rfl
  have dealt : (i.start call w).report.damageDealt = 0 := by
    cases call with
    | execute => rfl
    | request q =>
        have none (work : Work α) : (startReport work).damageDealt = 0 := by cases work <;> rfl
        exact none q.work
  exact
    { damage := by
        rw [governor, dealt]
        rfl
      spawns := by
        rw [governor, blank.spawnCount]
        rfl
      clamps := by
        rw [blank.clamps]
        rfl
      positive := fun requested asked => absurd asked List.not_mem_nil
      allSpawned := fun _ => blank.spawnCount
      someSpawned := fun most limit => by
        rw [blank.spawnCount]
        exact (Nat.zero_min most).symm
      allDealt := fun reading limit => by
        rw [dealt]
        exact reading.zero
      someDealt := fun {value} reading most limit => by
        rw [dealt, reading.zero]
        exact (min_eq_left (le_max_right ..)).symm }

theorem moment_spent (n : Nat) :
    (i.moment call w clock n).state.Spent i.settings.limits (i.grants call w clock n) := by
  induction n with
  | zero =>
      exact (i.start_spent call w).of_sameBudget (i.opening_alike call w clock).sameBudget
  | succ n ih =>
      have acts := i.moment_acts call w clock n
      rw [grants_succ]
      cases asked : (i.moment call w clock n).demand? (i.cast call.caster w clock) with
      | none =>
          have nothing : (i.moment call w clock n).grant? (i.cast call.caster w clock) = none := by
            rw [Moment.grant?, asked, Option.map_none]
          rw [nothing, Option.toList_none, List.append_nil]
          exact ih.of_sameBudget (acts.sameBudget nothing)
      | some demanded =>
          obtain ⟨target, d⟩ := demanded
          obtain ⟨-, -, s₁, drawn, stroke⟩ := Moment.step_of_demand? asked
          have spent := ih.of_sameBudget (.of_drawn drawn)
          have granted : (i.moment call w clock n).grant? (i.cast call.caster w clock) =
              some (s₁.governor.answer i.settings.limits target d) := by
            rw [Moment.grant?, asked, Option.map_some, drawn.governor]
            rfl
          rw [granted, Option.toList_some]
          cases d with
          | damage requested =>
              have positive := Moment.not_neg_of_demand? asked
              exact (spent.wound positive).of_sameBudget stroke.wounds
          | spawns requested => exact (spent.populate requested).of_sameBudget stroke.populates

theorem moment_count (numbered : w.Numbered) (n : Nat) :
    (i.moment call w clock n).state.world.count =
      w.count + (i.moment call w clock n).state.report.spawnCount := by
  have kept := i.moment_of_moves call w clock
    (P := fun s => s.world.Numbered ∧ s.world.count = w.count + s.report.spawnCount) ?_ ?_ ?_ n
  · exact kept.2
  · intro s s' alike counted
    rw [alike.world, alike.spawnCount]
    exact counted
  · intro target s s' move counted
    have added := move.count counted.1
    exact ⟨move.numbered counted.1, by omega⟩
  · rw [i.start_world, (i.start_blank call w).spawnCount]
    exact ⟨numbered, rfl⟩

theorem grant_follows {n : Nat} {g : Grant α}
    (granted : (i.moment call w clock n).grant? (i.cast call.caster w clock) = some g) :
    g.Follows i.settings.limits (i.grants call w clock n) ∧
      (i.moment call w clock (n + 1)).fault = none ∧
      (i.moment call w clock (n + 1)).agenda = (i.moment call w clock n).agenda.tail := by
  obtain ⟨⟨target, d⟩, asked, rfl⟩ := Option.map_eq_some_iff.mp granted
  obtain ⟨running, agenda, -⟩ := Moment.step_of_demand? asked
  exact ⟨(i.moment_spent call w clock n).answer_follows target d, running, agenda⟩

/-- The ceilings of damage and of spawns are for a whole call. The damage dealt and the number of
spawned entities are what was asked for in total, up to the ceiling. Every request is granted what the
earlier ones have left and is carried out, be it with nothing, and every grant that falls short is
listed as a clamp. -/
theorem run_grants (i : Interpreter α) (call : Call α) (w : World α) (clock : Clock) :
    let w' := (i.run call w clock).2
    let r := (i.run call w clock).1.report
    let limits := i.settings.limits
    (∃ n, (i.moment call w clock n).agenda = [] ∧
      let gs := i.grants call w clock n
      (limits.spawns = none → r.spawnCount = Grant.spawnsAsked gs) ∧
      (∀ most, limits.spawns = some most → r.spawnCount = min (Grant.spawnsAsked gs) most) ∧
      (∀ {value : α → ℚ}, Exact value → ∀ most, limits.damage = some most →
        value r.damageDealt = min ((Grant.damages gs).map value).sum (max (value most) 0) ∧
        value r.damageDealt ≤ max (value most) 0) ∧
      (∀ requested ∈ Grant.damages gs, ¬ requested < 0) ∧
      r.clamps.toList = gs.filterMap Grant.clamp?) ∧
    r.spawned.size = r.spawnCount ∧ (w.Numbered → w'.count = w.count + r.spawnCount) ∧
    ∀ n g, (i.moment call w clock n).grant? (i.cast call.caster w clock) = some g →
      g.Follows limits (i.grants call w clock n) ∧ (i.moment call w clock (n + 1)).fault = none ∧
      (i.moment call w clock (n + 1)).agenda = (i.moment call w clock n).agenda.tail := by
  obtain ⟨last, nothing, -⟩ := i.exists_last call w clock
  have spent := i.moment_spent call w clock last
  have accounted := (i.moment_accounted call w clock last).state
  dsimp only
  rw [world_run nothing, report_run nothing]
  refine ⟨⟨last, nothing, spent.allSpawned, spent.someSpawned, fun reading most limit => ?_,
    spent.positive, spent.clamps⟩, ?_, fun numbered => i.moment_count call w clock numbered last,
    fun n g granted => i.grant_follows call w clock granted⟩
  · have dealt := spent.someDealt reading most limit
    exact ⟨dealt, dealt ▸ min_le_right _ _⟩
  · change (i.moment call w clock last).state.report.spawned.size = _
    rw [← Array.length_toList, accounted.spawned, List.length_range']

section

local instance : Scalar ℚ := rational

/-- An interpreter that computes with rationals and has a ceiling of damage and one of spawns. -/
def stingy : Interpreter ℚ where
  settings := { Settings.standard with limits := { damage := some 10, spawns := some 2 } }

/-- A call that asks for 14 points of damage and for 4 wolves, and once heals. -/
def rampage : Call ℚ :=
  .request
    { caster := 1
      target := none
      dueTick := 0
      work := .operations 1
        [.act (.dealDamage "force" (.number 7)),
         .act (.dealDamage "force" (.number 5)),
         .act (.dealDamage "force" (.number (-3))),
         .act (.spawnEntity "wolf" (.number 3) (some ⟨.number 0, .number 0⟩)),
         .act (.dealDamage "force" (.number 2)),
         .act (.spawnEntity "wolf" (.number 1) (some ⟨.number 0, .number 0⟩))] }

def glade : World ℚ := (World.create .empty "wisp").2

/-- The call deals 10 points of damage and spawns two wolves, with four grants cut short. -/
theorem rampage_grants :
    let w' := (stingy.run rampage glade .still).2
    let r := (stingy.run rampage glade .still).1.report
    r.success = true ∧ (r.damageDealt : ℚ) ≤ max 10 0 ∧ w'.count = 3 ∧ r.clamps.size = 4 := by
  obtain ⟨⟨n, -, -, -, dealt, -, -⟩, -, added, -⟩ := run_grants stingy rampage glade .still
  have succeeded : (stingy.run rampage glade .still).1.report.success = true := by
    decide +kernel
  have spawned : (stingy.run rampage glade .still).1.report.spawnCount = 2 := by
    decide +kernel
  have clamps : (stingy.run rampage glade .still).1.report.clamps.size = 4 := by
    decide +kernel
  have count := added (World.Numbered.empty.spawn _)
  rw [spawned] at count
  exact ⟨succeeded, (dealt exact_rational 10 rfl).2, count, clamps⟩

end

end Interpreter

end Grimoire
