import Grimoire.Proofs.Call.Acts
import Grimoire.Proofs.Call.Counts

/-! # The report accounts for the world

What a call does to a world, its report tells: the entities that were spawned, the events that were
logged, and which entities were operated on.  Nothing else is touched.  An action is only ever
performed on an entity that the call has met before, and an entity that is met is in the world.
-/

namespace Grimoire

variable {α : Type}

/-! ## What an agenda is about -/

/-- Whether whatever is there stays there, and whoever was met has been met. -/
structure Execution.Retains (s s' : Execution α) : Prop where
  has : ∀ id, s.world.has id = true → s'.world.has id = true
  met : ∀ id ∈ s.report.affected, id ∈ s'.report.affected

theorem Execution.Retains.of_eq {s s' : Execution α} (world : s'.world = s.world)
    (affected : s'.report.affected = s.report.affected) : s.Retains s' where
  has id there := by
    rw [world]
    exact there
  met id met := by
    rw [affected]
    exact met

namespace Pending

/-- Whether an entry is about entities that are there, or that the call has met. -/
def Aimed (s : Execution α) : Pending α → Prop
  | targets ids _ => ∀ id ∈ ids, s.world.has id = true
  | operations target _ | dispatch target _ | rounds target _ _ => target ∈ s.report.affected
  | chained target _ _ | triggered target _ => target ∈ s.report.affected
  | enter _ inner => inner.Aimed s
  | weigh .. | effect .. | close _ => True

theorem Aimed.mono {p : Pending α} {s s' : Execution α} (h : p.Aimed s) (retains : s.Retains s') :
    p.Aimed s' := by
  induction p with
  | targets ids ops => exact fun id listed => retains.has id (h id listed)
  | operations | dispatch | rounds | chained | triggered => exact retains.met _ h
  | enter b inner ih => exact ih h
  | weigh | effect | close => trivial

/-- What an entry leads to is about the same entities, or about targets that are chosen. -/
theorem Leads.aimed {c : Cast α} {p : Pending α} {more : List (Pending α)} {s : Execution α}
    (h : p.Leads c more) (aimed : p.Aimed s) (present : ∀ q ∈ more, q.Present s.world) :
    ∀ q ∈ more, q.Aimed s := by
  cases h with
  | done => exact fun q listed => absurd listed List.not_mem_nil
  | effect => exact List.forall_mem_singleton.mpr trivial
  | targets | chained =>
      have chosen := present _ List.mem_cons_self
      exact List.forall_mem_singleton.mpr chosen
  | round => exact List.forall_mem_cons.mpr ⟨aimed, List.forall_mem_singleton.mpr aimed⟩
  | _ => exact List.forall_mem_singleton.mpr aimed

end Pending

/-! ## The account -/

/-- What the report of a call says about the world that the call has made of another one. -/
structure Execution.Accounted (w : World α) (s : Execution α) : Prop where
  tick : s.world.tick = w.tick
  bounds : s.world.bounds = w.bounds
  nextId : s.world.nextId = w.nextId + s.report.spawnCount
  /-- Numbers are given out one after the other. -/
  spawned : s.report.spawned.toList = List.range' w.nextId s.report.spawnCount
  has : ∀ id, s.world.has id = true ↔ w.has id = true ∨ id ∈ s.report.spawned
  met : ∀ id ∈ s.report.affected, s.world.has id = true
  untouched : ∀ id, id ∉ s.report.affected → id ∉ s.report.spawned →
    s.world.entity? id = w.entity? id
  events : s.world.events = w.events ++ s.report.events

namespace Execution.Accounted

variable {w : World α} {s s' : Execution α}

theorem mem_spawned (h : s.Accounted w) (id : EntityId) :
    id ∈ s.report.spawned ↔ w.nextId ≤ id ∧ id < s.world.nextId := by
  rw [← Array.mem_toList_iff, h.spawned, List.mem_range'_1, h.nextId]

theorem of_drawn (h : s.Accounted w) (drawn : s.Drawn s') : s'.Accounted w := by
  obtain ⟨stream, rfl⟩ := drawn
  exact { h with }

theorem emit (h : s.Accounted w) {event : Event α} {world : World α}
    (room : s.world.emit? event = some world) :
    Accounted w
      { s with world := world,
               report := { s.report with events := s.report.events.push event } } := by
  unfold World.emit? at room
  split at room
  · cases room
  · cases room
    exact
      { h with
        events := by
          change s.world.events.push event = w.events ++ s.report.events.push event
          rw [h.events, Array.append_push] }

theorem addEntity (h : s.Accounted w) (typeName : String) (itemId : Option String)
    (place : Position α) : (s.addEntity typeName itemId place).Accounted w := by
  have has (id : EntityId) : (s.addEntity typeName itemId place).world.has id = true ↔
      id = s.world.nextId ∨ s.world.has id = true := World.has_place
  have mem (id : EntityId) : id ∈ (s.addEntity typeName itemId place).report.spawned ↔
      id ∈ s.report.spawned ∨ id = s.world.nextId := Array.mem_push
  exact
    { h with
      nextId := congrArg (· + 1) h.nextId
      spawned := by
        change (s.report.spawned.push s.world.nextId).toList = _
        rw [Array.toList_push, h.spawned, h.nextId]
        exact (List.range'_1_concat ..).symm
      has := fun id => by
        rw [has, mem, h.has]
        tauto
      met := fun id met => (has id).mpr (.inr (h.met id met))
      untouched := fun id unmet old => by
        rw [mem, not_or] at old
        rw [← h.untouched id unmet old.1]
        exact Execution.entity?_addEntity_of_ne typeName itemId place (Ne.symm old.2) }

theorem fresh (h : s.Accounted w) (numbered : w.Numbered) {id : EntityId}
    (spawned : id ∈ s.report.spawned) : ¬ w.has id = true := by
  intro there
  have high := ((h.mem_spawned id).mp spawned).1
  exact absurd (numbered.below there) (Nat.not_lt.mpr high)

variable [Scalar α]

theorem write (h : s.Accounted w) {v : Vocabulary} {target : EntityId} {e e' : Entity α}
    {f : Report α → Report α} (met : target ∈ s.report.affected)
    (found : s.world.entity? target = some e)
    (written : Write v s.world.bounds target e e' f) :
    Accounted w { s with world := s.world.place target e', report := f s.report } := by
  have same := World.has_place_of_has (e := e') (World.has_of_entity? found)
  obtain ⟨changes, statuses, report⟩ := written.report_eq s.report
  rw [report]
  exact
    { h with
      has := fun id => (same id).trans (h.has id)
      met := fun id met => (same id).mpr (h.met id met)
      untouched := fun id unmet old => by
        have other : target ≠ id := fun same => unmet (same ▸ met)
        rw [← h.untouched id unmet old]
        exact World.entity?_place_of_ne _ _ other }

theorem move (h : s.Accounted w) {c : Cast α} {target : EntityId}
    (met : target ∈ s.report.affected) (move : Move c target s s') : s'.Accounted w := by
  cases move with
  | draw drawn => exact h.of_drawn drawn
  | restore | wound | allot => exact { h with }
  | spawn typeName itemId place inside => exact h.addEntity typeName itemId place
  | emit event world room => exact h.emit room
  | write found written => exact h.write met found written

theorem moves (h : s.Accounted w) {c : Cast α} {target : EntityId}
    (met : target ∈ s.report.affected) (moves : Relation.ReflTransGen (Move c target) s s') :
    s'.Accounted w := by
  induction moves with
  | refl => exact h
  | tail earlier last ih =>
      have same := (Undisturbed.of_moves Move.undisturbed earlier).report.affected
      exact ih.move (same ▸ met) last

/-- A deed of an entry is accounted for, if the entry is about what was met. -/
theorem deed (h : s.Accounted w) {c : Cast α} {p : Pending α} {demand : Option (Demand α)}
    (aimed : p.Aimed s) (deed : p.Deed c demand s s') : s'.Accounted w := by
  cases deed with
  | nothing => exact h
  | strike stroke => exact h.moves aimed stroke.moves
  | stop | request | delay => exact { h with }

end Execution.Accounted

/-! ## Moments -/

/-- Whether the report of a moment accounts for its world, and the agenda is about what is there. -/
structure Moment.Accounted (w : World α) (m : Moment α) : Prop where
  state : m.state.Accounted w
  aimed : ∀ p ∈ m.agenda, p.Aimed m.state

namespace Moment.Accounted

variable {w : World α} {p : Pending α} {rest : List (Pending α)} {fault : Option Fault}
  {s s' : Execution α}

theorem next (h : Accounted w ⟨p :: rest, fault, s⟩) (fault' : Option Fault)
    (state : s'.Accounted w) (retains : s.Retains s') : Accounted w ⟨rest, fault', s'⟩ where
  state := state
  aimed q listed := ((List.forall_mem_cons.mp h.aimed).2 q listed).mono retains

theorem cons (h : Accounted w ⟨rest, fault, s⟩) (aimed : p.Aimed s) :
    Accounted w ⟨p :: rest, fault, s⟩ where
  state := h.state
  aimed := List.forall_mem_cons.mpr ⟨aimed, h.aimed⟩

theorem meet {id : EntityId} (h : s.Accounted w) (there : s.world.has id = true) :
    (s.meet id).Accounted w ∧ s.Retains (s.meet id) ∧ id ∈ (s.meet id).report.affected := by
  have mem (other : EntityId) :
      other ∈ (s.meet id).report.affected ↔ other ∈ s.report.affected ∨ other = id :=
    Array.mem_push
  refine ⟨{ h with met := ?_, untouched := ?_ }, ⟨fun _ there => there, ?_⟩, ?_⟩
  · intro other met
    rcases (mem other).mp met with met | rfl
    · exact h.met other met
    · exact there
  · intro other unmet
    exact h.untouched other fun met => unmet ((mem other).mpr (.inl met))
  · exact fun other met => (mem other).mpr (.inl met)
  · exact (mem id).mpr (.inr rfl)

variable [Scalar α] {c : Cast α}

theorem leads {more : List (Pending α)} (h : Accounted w ⟨p :: rest, none, s⟩)
    (leads : p.Leads c more) (does : p.Does c more s s') : Accounted w ⟨more ++ rest, none, s'⟩ := by
  obtain ⟨s₁, drawn, deed, present⟩ := does
  have same : s.Retains s₁ := .of_eq drawn.world (congrArg Report.affected drawn.report)
  have aimed := (List.forall_mem_cons.mp h.aimed).1.mono same
  have before := h.state.of_drawn drawn
  have after := before.deed aimed deed
  have retains : s₁.Retains s' := by
    refine ⟨fun id there => ?_, fun id met => ?_⟩
    · rcases (before.has id).mp there with old | spawned
      · exact (after.has id).mpr (.inl old)
      · refine (after.has id).mpr (.inr ?_)
        rw [← Array.mem_toList_iff] at spawned ⊢
        exact deed.undisturbed.report.spawned.subset spawned
    · rw [deed.undisturbed.report.affected]
      exact met
  have left := (h.next none before same).aimed
  refine ⟨after, List.forall_mem_append.mpr ⟨fun q listed => ?_, fun q listed => ?_⟩⟩
  · exact (leads.aimed aimed present q listed).mono retains
  · exact (left q listed).mono retains

theorem transition {m m' : Moment α} (tallied : m.Tallied c.settings.limits)
    (transition : c.Transition m m') (h : m.Accounted w) : m'.Accounted w := by
  have first {p : Pending α} {rest : List (Pending α)} {s : Execution α}
      (h : Accounted w ⟨p :: rest, none, s⟩) : p.Aimed s := (List.forall_mem_cons.mp h.aimed).1
  cases transition with
  | idle => exact h
  | drop => exact h.next _ h.state (.of_eq rfl rfl)
  | close => exact h.next _ { h.state with } (.of_eq rfl rfl)
  | leads rest quiet leads calm does => exact h.leads leads does
  | fails rest quiet plain calm drawn =>
      exact h.next _ (h.state.of_drawn drawn)
        (.of_eq drawn.world (congrArg Report.affected drawn.report))
  | known ids ops rest known =>
      have remaining := (List.forall_mem_cons.mp (first h)).2
      exact ((h.next none h.state (.of_eq rfl rfl)).cons (p := .targets ids ops) remaining).cons
        ((tallied.mem_iff _).mpr known)
  | meets ids ops rest new room =>
      obtain ⟨there, remaining⟩ := List.forall_mem_cons.mp (first h)
      obtain ⟨state, retains, met⟩ := meet h.state there
      exact ((h.next none state retains).cons (p := .targets ids ops) remaining).cons met
  | crowded | late | refuses => exact h.next _ h.state (.of_eq rfl rfl)
  | overruns => exact h.next _ { h.state with } (.of_eq rfl rfl)
  | @counts s target op ops rest time room =>
      have state : s.count.Accounted w := { h.state with }
      have met : target ∈ s.count.report.affected := first h
      exact ((h.next none state (.of_eq rfl rfl)).cons (p := .operations target ops) met).cons met
  | @opens b s inner rest room =>
      have state : (b.opened s).Accounted w := { h.state with }
      have retains : s.Retains (b.opened s) := .of_eq rfl rfl
      exact ((h.next none state retains).cons (p := .close b) trivial).cons
        ((first h).mono retains)

end Moment.Accounted

/-! ## Calls -/

/-- Whether nothing has been reported yet. -/
structure Report.Blank (r : Report α) : Prop where
  affected : r.affected = #[]
  spawnCount : r.spawnCount = 0
  spawned : r.spawned = #[]
  statuses : r.statuses = #[]
  events : r.events = #[]
  changes : r.changes = #[]
  clamps : r.clamps = #[]
  scheduled : r.scheduled = #[]

/-- When nothing has been reported, nothing has happened to the world. -/
theorem Report.Blank.accounted {s : Execution α} (h : s.report.Blank) :
    s.Accounted s.world where
  tick := rfl
  bounds := rfl
  nextId := by rw [h.spawnCount, Nat.add_zero]
  spawned := by
    rw [h.spawned, h.spawnCount]
    rfl
  has id := by simp [h.spawned]
  met id met := by simp [h.affected] at met
  untouched _ _ _ := rfl
  events := by simp [h.events]

variable [Scalar α]

namespace Interpreter

variable (i : Interpreter α) (call : Call α) (w : World α) (clock : Clock)

theorem startReport_blank (work : Work α) : (startReport work).Blank := by
  cases work <;> exact ⟨rfl, rfl, rfl, rfl, rfl, rfl, rfl, rfl⟩

theorem start_blank : (i.start call w).report.Blank := by
  cases call with
  | execute => exact ⟨rfl, rfl, rfl, rfl, rfl, rfl, rfl, rfl⟩
  | request q => exact startReport_blank q.work

theorem start_accounted : (i.start call w).Accounted w := by
  have accounted := (i.start_blank call w).accounted
  rw [i.start_world call w] at accounted
  exact accounted

theorem opening_accounted : (i.opening call w clock).Accounted w := by
  have opening := i.opening_cases call w clock
  have start := i.start_accounted call w
  generalize i.opening call w clock = m at opening
  cases opening with
  | refused => exact ⟨start, fun p listed => absurd listed List.not_mem_nil⟩
  | stopped => exact ⟨{ start with }, fun p listed => absurd listed List.not_mem_nil⟩
  | ready prepared present =>
      refine ⟨{ start with }, List.forall_mem_singleton.mpr ?_⟩
      cases prepared with
      | cast | effect => trivial
      | operations work =>
          intro id listed
          change (i.start _ w).world.has id = true
          rw [i.start_world]
          exact present id listed

theorem moment_accounted (n : Nat) : (i.moment call w clock n).Accounted w := by
  induction n with
  | zero => exact i.opening_accounted call w clock
  | succ n ih =>
      exact ih.transition (i.moment_tallied call w clock n) (Cast.step_transition ..)

variable {i call w clock} in
theorem world_run {n : Nat} (last : (i.moment call w clock n).agenda = []) :
    (i.run call w clock).2 = (i.moment call w clock n).state.world := by
  rw [run_eq_of_last last]
  unfold finish Moment.result
  cases (i.moment call w clock n).fault <;> rfl

/-- The report accounts for all changes of the world, on success and on failure. The tick and the bounds
stay; the new entities are the spawned ones; every affected entity exists; all other entities are as
they were; and the events added to the log are the emitted ones. -/
theorem run_accounted (numbered : w.Numbered) :
    let w' := (i.run call w clock).2
    let r := (i.run call w clock).1.report
    w'.tick = w.tick ∧ w'.bounds = w.bounds ∧
    (∀ id, id ∈ w'.ids ↔ id ∈ w.ids ∨ id ∈ r.spawned) ∧
    r.spawned.toList.Nodup ∧ (∀ id ∈ r.spawned, id ∉ w.ids) ∧ r.spawned.size = r.spawnCount ∧
    (∀ id ∈ r.affected, id ∈ w'.ids) ∧
    (∀ id ∈ w.ids, id ∉ r.affected → w'.entity? id = w.entity? id) ∧
    w'.events = w.events ++ r.events ∧
    w'.Numbered := by
  obtain ⟨last, nothing, -⟩ := i.exists_last call w clock
  have accounted := (i.moment_accounted call w clock last).state
  dsimp only
  rw [world_run nothing, report_run nothing]
  refine ⟨accounted.tick, accounted.bounds, fun id => ?_, ?_, fun id spawned => ?_, ?_,
    fun id met => ?_, fun id there unmet => ?_, accounted.events, ?_⟩
  · rw [World.mem_ids, World.mem_ids]
    exact accounted.has id
  · change (i.moment call w clock last).state.report.spawned.toList.Nodup
    rw [accounted.spawned]
    exact List.nodup_range'
  · rw [World.mem_ids]
    exact accounted.fresh numbered spawned
  · change (i.moment call w clock last).state.report.spawned.size = _
    rw [← Array.length_toList, accounted.spawned, List.length_range']
  · exact World.mem_ids.mpr (accounted.met id met)
  · refine accounted.untouched id unmet fun spawned => ?_
    exact accounted.fresh numbered spawned (World.mem_ids.mp there)
  · exact i.moment_numbered call w clock numbered last

/-- A call that tells of itself and calls a wolf to its side, and then fails. -/
def howl : Call Float :=
  .request
    { caster := 1
      target := none
      dueTick := 0
      work := .operations 1
        [.act (.emitEvent "howl" ∅),
         .act (.spawnEntity "wolf" (.number 1) (some ⟨.number 0, .number 0⟩)),
         .act (.heal (.number (-1)))] }

/-- The call fails after it has spawned a wolf and emitted an event, and reports both. -/
theorem howl_accounted :
    let w' := ((frugal 9).run howl lonely .still).2
    let r := ((frugal 9).run howl lonely .still).1.report
    r.success = false ∧ r.spawned = #[2] ∧ (∀ id, id ∈ w'.ids ↔ id ∈ lonely.ids ∨ id = 2) ∧
      w'.events.size = 1 ∧ w'.Numbered := by
  obtain ⟨-, -, ids, -, -, -, -, -, events, numbered⟩ :=
    run_accounted (frugal 9) howl lonely .still (World.Numbered.empty.spawn _)
  have failed : ((frugal 9).run howl lonely .still).1.report.success = false := by
    decide +kernel
  have spawned : ((frugal 9).run howl lonely .still).1.report.spawned = #[2] := by
    decide +kernel
  have emitted : ((frugal 9).run howl lonely .still).1.report.events.size = 1 := by
    decide +kernel
  refine ⟨failed, spawned, fun id => ?_, ?_, numbered⟩
  · rw [ids, spawned]
    simp
  · rw [events, Array.size_append, emitted]
    rfl

end Interpreter

end Grimoire
