import Grimoire.Proofs.Call.Account
import Grimoire.Proofs.Call.Literal
import Grimoire.Proofs.World.Bounds

/-! # Nothing leaves the world

However an action comes by the place where it puts something, the last thing it does before is to compare
that very place with the bounds.  So a world whose entities are inside stays one, whatever is asked of it,
and no report tells of a place outside.
-/

namespace Grimoire

variable {α : Type}

/-! ## Places in reports -/

def Change.place? : Change α → Option (Position α)
  | .moved _ _ goal => some goal
  | .spawned _ _ place => some place
  | .health .. | .maxHealth .. | .stat .. | .statusRemoved .. | .transformed .. | .material .. => none

variable [Scalar α]

/-- Whether everything that a report tells to have moved or to have been spawned came to be inside. -/
def Report.Within (b : Bounds α) (r : Report α) : Prop :=
  ∀ change ∈ r.changes, ∀ p, change.place? = some p → b.Encloses p

theorem Report.Within.change {b : Bounds α} {r : Report α} (within : r.Within b) {change : Change α}
    (inside : ∀ p, change.place? = some p → b.Encloses p) : (r.change change).Within b := by
  intro change' listed
  rcases Array.mem_push.mp listed with before | rfl
  · exact within change' before
  · exact inside

/-- Whether a world is confined, and all that is reported came to be inside of it. -/
structure Execution.Confined (b : Bounds α) (s : Execution α) : Prop where
  bounds : s.world.bounds = b
  world : s.world.Confined
  report : s.report.Within b

/-! ## Moves -/

/-- A write leaves the place alone and tells of none, or it is a move to a place inside. -/
theorem Write.confined {v : Vocabulary} {bounds : Bounds α} {target : EntityId} {e e' : Entity α}
    {f : Report α → Report α} (h : Write v bounds target e e' f) {r : Report α}
    (within : r.Within bounds) :
    (f r).Within bounds ∧ (e'.get? .position = e.get? .position ∨
      ∃ goal, e'.get? .position = some goal ∧ bounds.Encloses goal) := by
  cases h with
  | move goal inside =>
      have enclosed := Bounds.contains_iff.mp inside
      refine ⟨within.change fun p at_ => ?_, .inr ⟨goal, e.get?_put .position goal, enclosed⟩⟩
      cases at_
      exact enclosed
  | applyStatus => exact ⟨within, .inl (Entity.get?_put_of_ne _ _ _ _ (by simp))⟩
  | removeStatus =>
      refine ⟨?_, .inl (Entity.get?_put_of_ne _ _ _ _ (by simp))⟩
      dsimp only
      split
      · exact within
      · exact within.change nofun
  | transform =>
      exact ⟨within.change nofun, .inl (Entity.get?_put_of_ne { e with typeName := _ } _ _ _ (by simp))⟩
  | _ => exact ⟨within.change nofun, .inl (Entity.get?_put_of_ne _ _ _ _ (by simp))⟩

namespace Execution.Confined

variable {b : Bounds α} {s s' : Execution α}

theorem of_alike (alike : s.Alike s') (h : s.Confined b) : s'.Confined b where
  bounds := alike.world ▸ h.bounds
  world := alike.world ▸ h.world
  report := by
    unfold Report.Within
    rw [alike.changes]
    exact h.report

theorem addEntity (h : s.Confined b) (typeName : String) (itemId : Option String)
    {place : Position α} (inside : s.world.bounds.contains place = true) :
    (s.addEntity typeName itemId place).Confined b := by
  have enclosed := Bounds.contains_iff.mp inside
  let build (id : EntityId) : Entity α := Cast.furnish place itemId { id := id, typeName := typeName }
  refine ⟨h.bounds, h.world.spawn build fun p own => ?_, h.report.change fun p at_ => ?_⟩
  · have placed : (Cast.furnish place itemId
        ({ id := s.world.nextId, typeName := typeName } : Entity α)).get? .position = some place := by
      unfold Cast.furnish
      cases itemId with
      | none => exact Entity.get?_put _ .position place
      | some item =>
          dsimp only
          rw [Entity.get?_put_of_ne _ _ _ _ (by simp)]
          exact Entity.get?_put _ .position place
    cases placed.symm.trans own
    exact enclosed
  · cases at_
    exact h.bounds ▸ enclosed

theorem move {c : Cast α} {target : EntityId} (move : Move c target s s') (h : s.Confined b) :
    s'.Confined b := by
  cases move with
  | draw drawn => exact h.of_alike drawn.alike
  | restore | wound | allot => exact ⟨h.bounds, h.world, h.report⟩
  | spawn typeName itemId place inside => exact h.addEntity typeName itemId inside
  | emit event world room =>
      have bounds : world.bounds = s.world.bounds := by
        unfold World.emit? at room
        split at room
        · cases room
        · cases room
          rfl
      exact ⟨bounds.trans h.bounds, h.world.emit room, h.report⟩
  | write found written =>
      obtain ⟨rfl, world, report⟩ := h
      obtain ⟨told, still | ⟨goal, moved, inside⟩⟩ := written.confined report
      · exact ⟨rfl, world.replace found still, told⟩
      · refine ⟨rfl, world.place fun p own => ?_, told⟩
        cases moved.symm.trans own
        exact inside

end Execution.Confined

/-! ## Calls -/

namespace Interpreter

variable (i : Interpreter α) (call : Call α) {w : World α} (clock : Clock)

theorem moment_confined (confined : w.Confined) (n : Nat) :
    (i.moment call w clock n).state.Confined w.bounds := by
  refine i.moment_of_moves call w clock Execution.Confined.of_alike Execution.Confined.move ?_ n
  have opened := i.start_world call w
  refine ⟨congrArg World.bounds opened, ?_, ?_⟩
  · rw [opened]
    exact confined
  intro change listed
  rw [(i.start_blank call w).changes] at listed
  simp at listed

theorem run_confined (confined : w.Confined) :
    let w' := (i.run call w clock).2
    w'.bounds = w.bounds ∧ w'.Confined ∧ (i.run call w clock).1.report.Within w.bounds := by
  obtain ⟨last, nothing, -⟩ := i.exists_last call w clock
  obtain ⟨bounds, world, report⟩ := i.moment_confined call clock confined last
  dsimp only
  rw [world_run nothing, report_run nothing]
  exact ⟨bounds, world, report⟩

end Interpreter

/-! ## Histories -/

/-- How a world can go on, and how the calls on the way ended, the first one first: anybody may call for
anything, whatever comes of it, and time may pass. -/
inductive World.History (w : World α) : List (Outcome α) → World α → Prop where
  | start : History w [] w
  | call {outcomes w'} (before : History w outcomes w') (i : Interpreter α) (call : Call α)
      (clock : Clock) :
      History w (outcomes ++ [(i.run call w' clock).1]) (i.run call w' clock).2
  | advance {outcomes w'} (before : History w outcomes w') : History w outcomes w'.advance.2

namespace World

variable {w w' : World α} {outcomes : List (Outcome α)}

theorem History.confined (history : w.History outcomes w') (confined : w.Confined) :
    w'.bounds = w.bounds ∧ w'.Confined ∧
      ∀ outcome ∈ outcomes, (Outcome.report outcome).Within w.bounds := by
  induction history with
  | start => exact ⟨rfl, confined, fun outcome listed => absurd listed List.not_mem_nil⟩
  | advance before ih => exact ⟨ih.1, ih.2.1.advance, ih.2.2⟩
  | call before i call clock ih =>
      obtain ⟨bounds, world, reports⟩ := ih
      have ran := i.run_confined call clock world
      refine ⟨ran.1.trans bounds, ran.2.1, fun outcome listed => ?_⟩
      rcases List.mem_append.mp listed with earlier | new
      · exact reports outcome earlier
      · cases List.mem_singleton.mp new
        rw [← bounds]
        exact ran.2.2

/-- If all positions lie inside the bounds, they do so in every world that calls and ticks lead to. The
bounds never change, and every position in a report lies inside of them. -/
theorem nothing_leaves (confined : w.Confined) (history : w.History outcomes w') :
    w'.bounds = w.bounds ∧
      (∀ id p, w'.get? id .position = some p → w.bounds.Encloses p) ∧
      ∀ outcome ∈ outcomes,
        (∀ target source goal, .moved target source goal ∈ (Outcome.report outcome).changes →
          w.bounds.Encloses goal) ∧
        ∀ entity typeName place, .spawned entity typeName place ∈ (Outcome.report outcome).changes →
          w.bounds.Encloses place := by
  obtain ⟨bounds, world, reports⟩ := history.confined confined
  refine ⟨bounds, fun id p held => ?_, fun outcome listed => ⟨?_, ?_⟩⟩
  · rw [← bounds]
    exact world id p held
  · intro target source goal told
    exact reports outcome listed _ told goal rfl
  · intro entity typeName place told
    exact reports outcome listed _ told place rfl

end World

/-! ## A target at the edge -/

namespace Interpreter

/-- A world with somebody in the middle and somebody at its edge. -/
def ledge : World Float :=
  ((World.create .empty "wizard").2.create "goblin").2.update 1 (·.put .position ⟨0, 0⟩)
    |>.update 2 (·.put .position ⟨10000, 0⟩)

/-- A call that moves its target from the edge, puts a wolf there in its place, and then pushes the
target farther than the world goes. -/
def hurl : Call Float :=
  .request
    { caster := 1
      target := none
      dueTick := 0
      work := .operations 2
        [.act (.teleport ⟨.number 3, .number 4⟩),
         .act (.spawnEntity "wolf" (.number 1) (some ⟨.number 10000, .number 0⟩)),
         .act (.push none (.number 20000))] }

theorem ledge_confined : ledge.Confined := by
  have empty : (World.empty : World Float).Confined := by
    intro id p held
    simp [World.empty, World.get?, World.entity?] at held
  have bare (w : World Float) (confined : w.Confined) (typeName : String) :
      (w.create typeName).2.Confined := by
    refine confined.spawn (fun id => { id := id, typeName := typeName }) fun p own => ?_
    simp [Entity.get?] at own
  have both := bare _ (bare _ empty "wizard") "goblin"
  have middle : Bounds.Encloses .standard (⟨0, 0⟩ : Position Float) :=
    Bounds.contains_iff.mp (by decide +kernel)
  have edge : Bounds.Encloses .standard (⟨10000, 0⟩ : Position Float) :=
    Bounds.contains_iff.mp (by decide +kernel)
  refine World.Confined.place (World.Confined.place both fun p own => ?_) fun p own => ?_
  · cases own
    exact middle
  · cases own
    exact edge

/-- The push fails and leaves its target in place. -/
theorem hurl_stays_inside :
    let ran := (frugal 9).run hurl ledge .still
    ledge.Confined ∧ ledge.History [ran.1] ran.2.advance.2 ∧ ran.1.report.success = false ∧
      ran.1.report.changes.toList.map Change.place? = [some ⟨3, 4⟩, some ⟨10000, 0⟩] ∧
      ran.2.advance.2.get? 2 .position = some ⟨3, 4⟩ ∧
      ∀ id p, ran.2.advance.2.get? id .position = some p → ledge.bounds.Encloses p := by
  have history : ledge.History [((frugal 9).run hurl ledge .still).1]
      ((frugal 9).run hurl ledge .still).2.advance.2 :=
    .advance (.call .start (frugal 9) hurl .still)
  obtain ⟨-, inside, -⟩ := World.nothing_leaves ledge_confined history
  exact ⟨ledge_confined, history, by decide +kernel, by decide +kernel, by decide +kernel, inside⟩

end Interpreter

end Grimoire
