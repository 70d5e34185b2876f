import Grimoire.Proofs.World.Numbering
import Mathlib.Algebra.GroupWithZero.Nat

/-! # Stacks

A report says how many stacks of a status were applied to an entity and how many were removed.  The
stacks in the world balance with the two, as long as all that is applied fits.
-/

namespace Grimoire

variable {α : Type}

namespace Statuses

variable (s : Statuses) {status other : String}

theorem stackCount_apply (status : String) (count : Nat) (expiresAt : Option Nat) :
    (s.apply status count expiresAt).stackCount status =
      min (s.stackCount status + count) maxCount := by
  unfold stackCount
  rw [get?_apply]
  cases s.get? status with
  | none => exact congrArg (min · maxCount) (Nat.zero_add count).symm
  | some e => rfl

theorem stackCount_apply_of_ne (count : Nat) (expiresAt : Option Nat) (h : status ≠ other) :
    (s.apply status count expiresAt).stackCount other = s.stackCount other := by
  unfold stackCount
  rw [s.get?_apply_of_ne count expiresAt h]

theorem stackCount_remove_of_ne (count : Option Nat) (h : status ≠ other) :
    (s.remove status count).stackCount other = s.stackCount other := by
  unfold stackCount
  rw [s.get?_remove_of_ne count h]

end Statuses

namespace Entity

variable {β : Type}

theorem statusTable_put (e : Entity α) (table : Statuses) :
    (e.put .statuses table).statusTable = table := by
  rw [statusTable, get?_put, Option.getD_some]

theorem statusTable_put_of_ne (e : Entity α) (slot : Slot α β) (x : β)
    (h : slot.name ≠ (Slot.statuses : Slot α _).name) :
    (e.put slot x).statusTable = e.statusTable := by
  rw [statusTable, e.get?_put_of_ne slot .statuses x h, statusTable]

end Entity

namespace World

/-- The stacks of a status on an entity; on nobody there are none. -/
def stackCount (w : World α) (id : EntityId) (status : String) : Nat :=
  ((w.entity? id).map (·.statusStacks status)).getD 0

variable {w : World α} {id other : EntityId} {e : Entity α}

theorem stackCount_of_entity? (found : w.entity? id = some e) (status : String) :
    w.stackCount id status = e.statusTable.stackCount status := by
  rw [stackCount, found]
  rfl

theorem stackCount_place (w : World α) (id : EntityId) (e : Entity α) (status : String) :
    (w.place id e).stackCount id status = e.statusTable.stackCount status :=
  stackCount_of_entity? (w.entity?_place id e) status

theorem stackCount_place_of_ne (w : World α) (e : Entity α) (h : id ≠ other) (status : String) :
    (w.place id e).stackCount other status = w.stackCount other status := by
  rw [stackCount, w.entity?_place_of_ne e h, stackCount]

theorem stackCount_of_not_has (h : ¬ w.has id = true) (status : String) :
    w.stackCount id status = 0 := by
  rw [has_eq_isSome, Bool.not_eq_true, Option.isSome_eq_false_iff, Option.isNone_iff_eq_none] at h
  rw [stackCount, h]
  rfl

end World

/-! ## What a report says of stacks -/

def AppliedStatus.stacksOn (id : EntityId) (status : String) (a : AppliedStatus) : Nat :=
  if a.target = id ∧ a.status = status then a.count else 0

def Change.stacksOff (id : EntityId) (status : String) : Change α → Nat
  | statusRemoved target name count => if target = id ∧ name = status then count else 0
  | _ => 0

namespace Report

/-- How many stacks of a status were applied to an entity. -/
def stacksApplied (r : Report α) (id : EntityId) (status : String) : Nat :=
  (r.statuses.toList.map (·.stacksOn id status)).sum

/-- How many stacks of a status were removed from an entity. -/
def stacksRemoved (r : Report α) (id : EntityId) (status : String) : Nat :=
  (r.changes.toList.map (·.stacksOff id status)).sum

variable (r : Report α) (id : EntityId) (status : String)

@[simp] theorem stacksApplied_change (c : Change α) :
    (r.change c).stacksApplied id status = r.stacksApplied id status := rfl

@[simp] theorem stacksApplied_status (a : AppliedStatus) :
    (r.status a).stacksApplied id status = r.stacksApplied id status + a.stacksOn id status := by
  simp [stacksApplied, Report.status]

@[simp] theorem stacksRemoved_status (a : AppliedStatus) :
    (r.status a).stacksRemoved id status = r.stacksRemoved id status := rfl

@[simp] theorem stacksRemoved_change (c : Change α) :
    (r.change c).stacksRemoved id status = r.stacksRemoved id status + c.stacksOff id status := by
  simp [stacksRemoved, change]

end Report

/-! ## Balance -/

namespace Execution

/-- Whether the stacks of a status on an entity change by as much as is recorded. -/
def Balances (s : Execution α) (id : EntityId) (status : String) (s' : Execution α) : Prop :=
  s'.world.stackCount id status + s'.report.stacksRemoved id status + s.report.stacksApplied id status =
    s.world.stackCount id status + s.report.stacksRemoved id status + s'.report.stacksApplied id status

/-- Whether the stacks that are applied between two states fit on top of those that were there. -/
def Fits (s s' : Execution α) : Prop :=
  ∀ a, s'.report.statuses = s.report.statuses.push a →
    s.world.stackCount a.target a.status + a.count ≤ maxCount

namespace Balances

variable {id : EntityId} {status : String} {s s₁ s₂ s₃ s' : Execution α}

theorem of_eq (counts : s'.world.stackCount id status = s.world.stackCount id status)
    (changes : s'.report.changes = s.report.changes)
    (statuses : s'.report.statuses = s.report.statuses) : s.Balances id status s' := by
  simp only [Balances, Report.stacksRemoved, Report.stacksApplied, counts, changes, statuses]

theorem trans (h : s₁.Balances id status s₂) (h' : s₂.Balances id status s₃) :
    s₁.Balances id status s₃ := by
  unfold Balances at *
  omega

variable {target : EntityId} {e e' : Entity α} {r : Report α}

theorem replaced {c : Change α} (there : s.world.entity? target = some e)
    (same : e'.statusTable = e.statusTable) (other : c.stacksOff id status = 0) :
    s.Balances id status
      { s with world := s.world.place target e', report := s.report.change c } := by
  have kept : (s.world.place target e').stackCount id status = s.world.stackCount id status := by
    by_cases target = id
    · subst target
      rw [World.stackCount_place, same, World.stackCount_of_entity? there]
    · rw [World.stackCount_place_of_ne _ _ ‹_›]
  simp only [Balances, kept, Report.stacksRemoved_change, Report.stacksApplied_change, other,
    Nat.add_zero]

theorem restacked {table : Statuses} (there : s.world.entity? target = some e)
    (balance : target = id →
      table.stackCount status + r.stacksRemoved id status + s.report.stacksApplied id status =
        e.statusTable.stackCount status + s.report.stacksRemoved id status +
          r.stacksApplied id status)
    (other : target ≠ id → r.stacksRemoved id status = s.report.stacksRemoved id status ∧
      r.stacksApplied id status = s.report.stacksApplied id status) :
    s.Balances id status
      { s with world := s.world.place target (e.put .statuses table), report := r } := by
  unfold Balances
  by_cases same : target = id
  · subst same
    rw [World.stackCount_place, Entity.statusTable_put, World.stackCount_of_entity? there]
    exact balance rfl
  · obtain ⟨removed, applied⟩ := other same
    simp only [World.stackCount_place_of_ne _ _ same, removed, applied]

end Balances

end Execution

variable [Scalar α]

/-- A write of any kind balances stacks if they fit. -/
theorem Write.balances {v : Vocabulary} {target : EntityId} {s : Execution α} {e e' : Entity α}
    {f : Report α → Report α} (there : s.world.entity? target = some e)
    (written : Write v s.world.bounds target e e' f)
    (fits : s.Fits { s with world := s.world.place target e', report := f s.report })
    (id : EntityId) (status : String) :
    s.Balances id status { s with world := s.world.place target e', report := f s.report } := by
  cases written with
  | applyStatus name count expiresAt =>
      have room : e.statusTable.stackCount name + count ≤ maxCount := by
        have room := fits _ rfl
        rwa [World.stackCount_of_entity? there] at room
      refine .restacked there (fun same => ?_) (fun ne => ⟨rfl, ?_⟩)
      · by_cases named : name = status
        · subst named
          rw [Statuses.stackCount_apply, Nat.min_eq_left room]
          simp [AppliedStatus.stacksOn, same]
          omega
        · rw [e.statusTable.stackCount_apply_of_ne count expiresAt named]
          simp [AppliedStatus.stacksOn, named]
      · simp [AppliedStatus.stacksOn, ne]
  | @removeStatus table name requested held =>
      have tableOf : e.statusTable = table := by
        rw [Entity.statusTable, held, Option.getD_some]
      have least := table.removable_le name requested
      dsimp only
      by_cases none : table.removable name requested = 0
      · rw [if_pos none]
        refine .restacked there (fun same => ?_) (fun _ => ⟨rfl, rfl⟩)
        by_cases named : name = status
        · subst named
          rw [table.stackCount_remove, none, tableOf, Nat.sub_zero]
        · rw [table.stackCount_remove_of_ne requested named, tableOf]
      · rw [if_neg none]
        refine .restacked there (fun same => ?_) (fun ne => ⟨?_, rfl⟩)
        · by_cases named : name = status
          · subst named
            simp [table.stackCount_remove, tableOf, Change.stacksOff, same]
            omega
          · simp [table.stackCount_remove_of_ne requested named, tableOf, Change.stacksOff, named]
        · simp [Change.stacksOff, ne]
  | transform toType expiresAt =>
      exact .replaced there (Entity.statusTable_put_of_ne _ _ _ (by simp)) rfl
  | _ => exact .replaced there (e.statusTable_put_of_ne _ _ (by simp)) rfl

/-- An application that is recorded tells how many stacks there are then. -/
theorem Write.total_eq {v : Vocabulary} {target : EntityId} {s : Execution α} {e e' : Entity α}
    {f : Report α → Report α} (there : s.world.entity? target = some e)
    (written : Write v s.world.bounds target e e' f) {a : AppliedStatus}
    (recorded : (f s.report).statuses = s.report.statuses.push a) :
    a.total = min (s.world.stackCount a.target a.status + a.count) maxCount := by
  cases written with
  | applyStatus name count expiresAt =>
      obtain ⟨rfl, -⟩ := Array.push_eq_push.mp recorded.symm
      rw [World.stackCount_of_entity? there]
      exact Statuses.stackCount_apply ..
  | removeStatus =>
      dsimp only at recorded
      split at recorded
      · exact absurd recorded Array.push_ne_self.symm
      · exact absurd recorded Array.push_ne_self.symm
  | _ => exact absurd recorded Array.push_ne_self.symm

namespace Touch

variable {v : Vocabulary} {target : EntityId} {s s' : Execution α}

theorem balances (h : Touch v target s s') (fits : s.Fits s') (id : EntityId) (status : String) :
    s.Balances id status s' := by
  cases h with
  | nothing => exact .of_eq rfl rfl rfl
  | write found written => exact written.balances found fits id status

theorem total_eq (h : Touch v target s s') {a : AppliedStatus}
    (recorded : s'.report.statuses = s.report.statuses.push a) :
    a.total = min (s.world.stackCount a.target a.status + a.count) maxCount := by
  cases h with
  | nothing => exact absurd recorded Array.push_ne_self.symm
  | write found written => exact written.total_eq found recorded

end Touch

end Grimoire
