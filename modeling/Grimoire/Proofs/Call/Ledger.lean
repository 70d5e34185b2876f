import Grimoire.Proofs.Call.Chronicle
import Grimoire.Proofs.Call.Relaxing
import Grimoire.Proofs.Run.Ledger
import Grimoire.Proofs.Run.Stacks

/-! # The ledger of a call

The changes in the report of a call lead from the view of the world before it to the view after it, on
success and on failure. Stacks of statuses balance as well: the stacks before and the applied ones are
the removed ones and those that are left.
-/

namespace Grimoire

variable {α : Type} {w : World α} {s s' : Execution α} {id : EntityId}

/-! ## Stacks of entities that are spawned -/

theorem Cast.stackCount_furnish [Scalar α] (place : Position α) (itemId : Option String)
    (id : EntityId) (typeName status : String) :
    (Cast.furnish place itemId { id := id, typeName := typeName }).statusTable.stackCount status =
      0 := by
  have placed : (({ id := id, typeName := typeName } : Entity α).put .position place).statusTable =
      {} := by
    rw [Entity.statusTable_put_of_ne _ _ _ (by simp)]
    simp [Entity.statusTable, Entity.get?]
  have furnished : (Cast.furnish place itemId { id := id, typeName := typeName }).statusTable =
      {} := by
    cases itemId with
    | none => exact placed
    | some itemId => exact (Entity.statusTable_put_of_ne _ .item _ (by simp)).trans placed
  rw [furnished]
  simp [Statuses.stackCount, Statuses.get?]

namespace Execution

variable [Scalar α] (typeName : String) (itemId : Option String) (place : Position α)

theorem balances_addEntity (status : String)
    (new : s.world.nextId = id → ¬ s.world.has id = true) :
    s.Balances id status (s.addEntity typeName itemId place) := by
  have kept : (s.addEntity typeName itemId place).world.stackCount id status =
      s.world.stackCount id status := by
    by_cases next : s.world.nextId = id
    · subst next
      rw [World.stackCount_of_entity? (s.entity?_addEntity typeName itemId place),
        World.stackCount_of_not_has (new rfl), Cast.stackCount_furnish]
    · rw [World.stackCount, s.entity?_addEntity_of_ne typeName itemId place next, World.stackCount]
  have removed : (s.addEntity typeName itemId place).report.stacksRemoved id status =
      s.report.stacksRemoved id status := by
    simp [addEntity, Report.stacksRemoved, Change.stacksOff]
  unfold Balances
  rw [kept, removed]
  rfl

variable {typeName itemId place}

theorem Accounted.balances_spawns {n : Nat} {c : Cast α} (target : EntityId) (h : s.Accounted w)
    (inside : s.world.bounds.contains place = true)
    (known : c.settings.vocabulary.Offers typeName itemId)
    (spawned : Run.times n (Cast.spawnOne typeName itemId place) s = .ok () s')
    (old : w.has id = true → id ∉ s'.report.spawned) (status : String) :
    s.Balances id status s' := by
  induction n generalizing s with
  | zero =>
      cases spawned
      exact .of_eq rfl rfl rfl
  | succ n ih =>
      have next : Relation.ReflTransGen (Move c target) (s.addEntity typeName itemId place) s' :=
        Move.spawns inside known spawned
      have grown := (Undisturbed.of_moves Move.undisturbed next).report.spawned
      have listed : s.world.nextId ∈ s'.report.spawned :=
        Array.mem_toList_iff.mp (grown.subset (Array.mem_toList_iff.mpr Array.mem_push_self))
      refine (balances_addEntity typeName itemId place status ?_).trans
        (ih (h.addEntity typeName itemId place) inside spawned)
      rintro rfl there
      rcases (h.has _).mp there with before | recent
      · exact old before listed
      · exact absurd ((h.mem_spawned _).mp recent).2 (Nat.lt_irrefl _)

end Execution

variable [Scalar α]

/-! ## Strokes -/

namespace Stroke

variable {c : Cast α} {target : EntityId} {demand : Option (Demand α)}

theorem balances (h : Stroke c target demand s s') (accounted : s.Accounted w) (fits : s.Fits s')
    (old : w.has id = true → id ∉ s'.report.spawned) (status : String) :
    s.Balances id status s' := by
  cases h with
  | touch touched | restore amount touched | wound requested touched =>
      exact touched.balances fits id status
  | emit event world room =>
      unfold World.emit? at room
      split at room
      · cases room
      · cases room
        exact .of_eq rfl rfl rfl
  | spawn typeName itemId place requested inside known spawned =>
      have granted : (s.grantSpawns c.settings.limits target requested).Accounted w :=
        { accounted with }
      exact granted.balances_spawns target inside known spawned old status

theorem total_eq (h : Stroke c target demand s s') {a : AppliedStatus}
    (recorded : s'.report.statuses = s.report.statuses.push a) :
    a.total = min (s.world.stackCount a.target a.status + a.count) maxCount := by
  cases h with
  | touch touched | restore amount touched | wound requested touched =>
      exact touched.total_eq recorded
  | emit event world room => exact absurd recorded Array.push_ne_self.symm
  | spawn typeName itemId place requested inside known spawned =>
      have kept := (Cast.times_spawnOne_counts spawned).2.2.1
      exact absurd (kept.symm.trans recorded) Array.push_ne_self.symm

end Stroke

/-! ## Calls -/

namespace Interpreter

variable (i : Interpreter α) (call : Call α) (w : World α) (clock : Clock)

end Interpreter

end Grimoire
