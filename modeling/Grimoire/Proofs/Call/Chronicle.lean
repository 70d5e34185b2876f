import Grimoire.Proofs.Call.Account
import Grimoire.Proofs.World.Lasting

/-! # Numbers are given out once

Entities are added under numbers that the world gives out, also in the middle of a call, or under
numbers of their own, and they are removed again. The next number only grows, and it is above every
number in use when it is used. So a number that is given out was never in use before, not even by an
entity that was removed.
-/

namespace Grimoire

variable {α : Type}

namespace World

def blank (bounds : Bounds α) (tick : Nat) (capacity : Option Nat) : World α :=
  { bounds := bounds, tick := tick, eventCapacity := capacity }

theorem Numbered.blank (bounds : Bounds α) (tick : Nat) (capacity : Option Nat) :
    (blank bounds tick capacity).Numbered where
  own found := by simp [World.blank, entity?] at found
  below there := by simp [World.blank, has] at there

/-- The added entity has a number that is unused in all the given worlds, and no other entity changes. -/
structure AddsNew (worlds : List (World α)) (w : World α) (added : EntityId × World α) : Prop where
  unused : ∀ v ∈ worlds, added.1 ∉ v.ids
  there : added.1 ∈ added.2.ids
  others : ∀ id, id ≠ added.1 → added.2.entity? id = w.entity? id

variable [Scalar α]

/-- The operations on a world. An inserted entity brings its own number and may replace the one that has it;
a change of an entity keeps its number. -/
inductive Turn (w : World α) : World α → Prop where
  | spawn (build : EntityId → Entity α) : Turn w (w.spawn build).2
  | create (typeName : String) : Turn w (w.create typeName).2
  | insert (e : Entity α) (room : e.id < maxCount) : Turn w (w.insert e)
  | remove (id : EntityId) : Turn w (w.remove id)
  | change (id : EntityId) (f : Entity α → Entity α) (own : ∀ e, (f e).id = e.id) :
      Turn w (w.update id f)
  | call (i : Interpreter α) (call : Call α) (clock : Clock) : Turn w (i.run call w clock).2
  | advance : Turn w w.advance.2

/-- The worlds before, oldest first, and the world they lead to. -/
inductive Chronicle : List (World α) → World α → Prop where
  | start (bounds : Bounds α) (tick : Nat) (capacity : Option Nat) :
      Chronicle [] (blank bounds tick capacity)
  | turn {past w w'} (before : Chronicle past w) (turn : w.Turn w') : Chronicle (past ++ [w]) w'

end World

variable [Scalar α]

/-! ## Turns -/

/-- A call adds entities under the numbers that come next, and takes none away. -/
theorem Interpreter.run_numbers (i : Interpreter α) (call : Call α) (w : World α) (clock : Clock) :
    let w' := (i.run call w clock).2
    let r := (i.run call w clock).1.report
    w'.nextId = w.nextId + r.spawnCount ∧ r.spawned.toList = List.range' w.nextId r.spawnCount ∧
      (∀ id, w'.has id = true ↔ w.has id = true ∨ id ∈ r.spawned) ∧ (w.Numbered → w'.Numbered) := by
  obtain ⟨last, nothing, -⟩ := i.exists_last call w clock
  have accounted := (i.moment_accounted call w clock last).state
  dsimp only
  rw [world_run nothing, report_run nothing]
  exact ⟨accounted.nextId, accounted.spawned, accounted.has,
    fun numbered => i.moment_numbered call w clock numbered last⟩

namespace World

variable {past : List (World α)} {w w' : World α}

theorem Turn.numbered (turn : w.Turn w') (numbered : w.Numbered) : w'.Numbered := by
  cases turn with
  | spawn build => exact numbered.spawn build
  | create typeName => exact numbered.spawn _
  | insert e room => exact numbered.insert room
  | remove id => exact numbered.remove id
  | change id f own => exact numbered.update id own
  | call i call clock => exact (i.run_numbers call w clock).2.2.2 numbered
  | advance => exact numbered.advance

theorem Turn.nextId_le (turn : w.Turn w') : w.nextId ≤ w'.nextId := by
  cases turn with
  | spawn | create => exact Nat.le_succ _
  | insert => exact Nat.le_max_left ..
  | remove | advance => exact Nat.le_refl _
  | change id f own =>
      unfold update
      split <;> exact Nat.le_refl _
  | call i call clock =>
      rw [(i.run_numbers call w clock).1]
      exact Nat.le_add_right ..

/-! ## Chronicles -/

theorem Chronicle.numbered (chronicle : Chronicle past w) : w.Numbered := by
  induction chronicle with
  | start bounds tick capacity => exact .blank bounds tick capacity
  | turn before turn ih => exact turn.numbered ih

theorem Chronicle.ids_lt (chronicle : Chronicle past w) :
    ∀ v ∈ past ++ [w], ∀ id ∈ v.ids, id < w.nextId := by
  induction chronicle with
  | start bounds tick capacity =>
      intro v listed id there
      cases List.mem_singleton.mp listed
      exact (Numbered.blank bounds tick capacity).below (mem_ids.mp there)
  | turn before turn ih =>
      intro v listed id there
      rcases List.mem_append.mp listed with earlier | now
      · exact Nat.lt_of_lt_of_le (ih v earlier id there) turn.nextId_le
      · cases List.mem_singleton.mp now
        exact (turn.numbered before.numbered).below (mem_ids.mp there)

theorem Chronicle.addsNew (chronicle : Chronicle past w) (build : EntityId → Entity α) :
    AddsNew (past ++ [w]) w (w.spawn build) where
  unused v listed there := Nat.lt_irrefl _ (chronicle.ids_lt v listed _ there)
  there := mem_ids.mpr (has_of_entity? (w.entity?_spawn build))
  others _ other := w.entity?_spawn_of_ne build (Ne.symm other)

/-- Entities are stored and listed by their own numbers, and the next number is above every number that
is or was in use. So a number that the world gives out, for a new entity or in a call, was never used
before. -/
theorem numbers_given_once (chronicle : Chronicle past w) :
    (∀ id e, w.entity? id = some e → e.id = id) ∧
    w.ids.Pairwise (· < ·) ∧
    (∀ v ∈ past ++ [w], ∀ id ∈ v.ids, id < w.nextId) ∧
    (∀ build, AddsNew (past ++ [w]) w (w.spawn build)) ∧
    (∀ typeName, AddsNew (past ++ [w]) w (w.create typeName)) ∧
    ∀ (i : Interpreter α) (call : Call α) (clock : Clock),
      let w' := (i.run call w clock).2
      let spawned := (i.run call w clock).1.report.spawned
      spawned.toList.Nodup ∧
      (∀ id ∈ spawned, ∀ v ∈ past ++ [w], id ∉ v.ids) ∧
      ∀ id, id ∈ w'.ids ↔ id ∈ w.ids ∨ id ∈ spawned := by
  refine ⟨fun id e found => chronicle.numbered.own found, w.ids_ascending, chronicle.ids_lt,
    chronicle.addsNew, fun typeName => chronicle.addsNew _, fun i call clock => ?_⟩
  obtain ⟨-, spawned, has, -⟩ := i.run_numbers call w clock
  refine ⟨?_, fun id new v listed there => ?_, fun id => ?_⟩
  · rw [spawned]
    exact List.nodup_range'
  · rw [← Array.mem_toList_iff, spawned, List.mem_range'_1] at new
    exact Nat.lt_irrefl _ (Nat.lt_of_lt_of_le (chronicle.ids_lt v listed id there) new.1)
  · rw [mem_ids, mem_ids]
    exact has id

end World

/-! ## Somebody who is gone -/

namespace Interpreter

/-- A wizard and a statue that has brought its number with it. -/
def gallery : World Float := (World.create .empty "wizard").2.insert { id := 50, typeName := "statue" }

def vacated : World Float := (gallery.create "rat").2.remove 51

/-- The worlds that the gallery has come from since it was empty. -/
def gallery.past : List (World Float) :=
  [.empty, (World.create .empty "wizard").2, gallery, (gallery.create "rat").2]

theorem vacated_chronicle : World.Chronicle gallery.past vacated :=
  .turn (.turn (.turn (.turn (.start .standard 0 none) (.create "wizard")) (.insert _ (by decide)))
    (.create "rat")) (.remove 51)

def summon : Call Float :=
  .request
    { caster := 1
      target := none
      dueTick := 0
      work := .operations 1 [.act (.spawnEntity "wolf" (.number 1) (some ⟨.number 0, .number 0⟩))] }

/-- The removed rat had number 51, which neither a new rat nor a spawned wolf gets again. -/
theorem vacated_numbers :
    World.Chronicle gallery.past vacated ∧
      51 ∈ (gallery.create "rat").2.ids ∧ vacated.ids = [1, 50] ∧
      (vacated.create "rat").1 = 52 ∧ (∀ id ∈ gallery.ids, id ≠ 52) ∧
      ((frugal 9).run summon vacated .still).1.report.spawned = #[52] ∧
      52 ∉ (gallery.create "rat").2.ids := by
  obtain ⟨-, -, -, -, creates, calls⟩ := World.numbers_given_once vacated_chronicle
  have spawned : ((frugal 9).run summon vacated .still).1.report.spawned = #[52] := by
    decide +kernel
  refine ⟨vacated_chronicle, by decide +kernel, by decide +kernel, by decide +kernel,
    fun id there same => ?_, spawned, ?_⟩
  · subst same
    exact (creates "rat").unused gallery (by simp [gallery.past]) there
  · exact (calls (frugal 9) summon .still).2.1 52 (by simp [spawned]) _ (by simp [gallery.past])

end Interpreter

end Grimoire
