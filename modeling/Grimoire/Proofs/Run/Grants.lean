import Grimoire.Proofs.Number.Exact
import Grimoire.Proofs.Run.Strikes

/-! # Grants

What actions ask of the budgets of a call and what they are granted.  `Execution.Spent` says what a
list of grants has come to in the counters and in the report: in all, as much was granted as was asked
for, up to the ceiling.
-/

namespace Grimoire

variable {α : Type}

/-- What was asked of a budget for a target, and what was granted. -/
inductive Grant (α : Type) where
  | damage (target : EntityId) (requested granted : α)
  | spawns (target : EntityId) (requested granted : Nat)

namespace Grant

def damage? : Grant α → Option α
  | damage _ requested _ => some requested
  | spawns .. => none

def spawns? : Grant α → Option Nat
  | damage .. => none
  | spawns _ requested _ => some requested

def clamp? [Scalar α] : Grant α → Option (Clamp α)
  | damage target requested granted =>
      if granted < requested then some ⟨.damage, requested, granted, some target⟩ else none
  | spawns target requested granted =>
      if granted < requested then
        some ⟨.spawns, Scalar.ofNat requested, Scalar.ofNat granted, some target⟩
      else none

def damages (gs : List (Grant α)) : List α := gs.filterMap damage?

def spawnsAsked (gs : List (Grant α)) : Nat := (gs.filterMap spawns?).sum

theorem damages_concat (gs : List (Grant α)) (g : Grant α) :
    damages (gs ++ [g]) = damages gs ++ g.damage?.toList := by
  cases g <;> simp [damages, damage?]

theorem spawnsAsked_concat (gs : List (Grant α)) (g : Grant α) :
    spawnsAsked (gs ++ [g]) = spawnsAsked gs + g.spawns?.getD 0 := by
  cases g <;> simp [spawnsAsked, spawns?, List.filterMap_cons]

/-- Whether a grant is as much of what was asked for as a ceiling leaves after what was asked for
before. -/
def Follows [Scalar α] (limits : Limits α) (before : List (Grant α)) : Grant α → Prop
  | damage _ requested granted =>
      (limits.damage = none → granted = requested) ∧
      ∀ {value : α → ℚ}, Exact value → ∀ most, limits.damage = some most →
        value granted =
          min (value requested) (max (value most - ((damages before).map value).sum) 0)
  | spawns _ requested granted =>
      (limits.spawns = none → granted = requested) ∧
      ∀ most, limits.spawns = some most → granted = min requested (most - spawnsAsked before)

end Grant

def Governor.answer [Scalar α] (limits : Limits α) (g : Governor α) (target : EntityId) :
    Demand α → Grant α
  | .damage requested => .damage target requested (g.damageLeft limits requested)
  | .spawns requested => .spawns target requested (g.spawnsLeft limits requested)

/-! ## What leaves the budgets alone -/

/-- Whether nothing has been granted. -/
structure Execution.SameBudget (s s' : Execution α) : Prop where
  damage : s'.governor.damage = s.governor.damage
  spawns : s'.governor.spawns = s.governor.spawns
  damageDealt : s'.report.damageDealt = s.report.damageDealt
  spawnCount : s'.report.spawnCount = s.report.spawnCount
  clamps : s'.report.clamps = s.report.clamps

namespace Execution.SameBudget

variable {s s₁ s₂ s₃ s' : Execution α}

theorem trans (h : s₁.SameBudget s₂) (h' : s₂.SameBudget s₃) : s₁.SameBudget s₃ where
  damage := h'.damage.trans h.damage
  spawns := h'.spawns.trans h.spawns
  damageDealt := h'.damageDealt.trans h.damageDealt
  spawnCount := h'.spawnCount.trans h.spawnCount
  clamps := h'.clamps.trans h.clamps

theorem of_drawn (h : s.Drawn s') : s.SameBudget s' := by
  obtain ⟨stream, rfl⟩ := h
  exact ⟨rfl, rfl, rfl, rfl, rfl⟩

end Execution.SameBudget

variable [Scalar α] {c : Cast α} {target : EntityId} {s s' : Execution α}

theorem Touch.sameBudget {v : Vocabulary} (h : Touch v target s s') : s.SameBudget s' := by
  cases h with
  | nothing => exact ⟨rfl, rfl, rfl, rfl, rfl⟩
  | write found written =>
      obtain ⟨changes, statuses, report⟩ := written.report_eq s.report
      rw [report]
      exact ⟨rfl, rfl, rfl, rfl, rfl⟩

/-! ## What a stroke is granted -/

namespace Stroke

theorem sameBudget (h : Stroke c target none s s') : s.SameBudget s' := by
  cases h with
  | touch touched => exact touched.sameBudget
  | restore amount touched => exact { touched.sameBudget with }
  | emit => exact ⟨rfl, rfl, rfl, rfl, rfl⟩

theorem wounds {requested : α} (h : Stroke c target (some (.damage requested)) s s') :
    (s.grantDamage c.settings.limits target requested).SameBudget s' := by
  cases h with
  | wound requested touched => exact touched.sameBudget

theorem populates {requested : Nat} (h : Stroke c target (some (.spawns requested)) s s') :
    Execution.SameBudget
      (let granted := s.grantSpawns c.settings.limits target requested
       { granted with
         report := { granted.report with
           spawnCount :=
             s.report.spawnCount + s.governor.spawnsLeft c.settings.limits requested } })
      s' := by
  cases h with
  | spawn typeName itemId place requested inside known spawned =>
      obtain ⟨count, governor, -, clamps, damage⟩ := Cast.times_spawnOne_counts spawned
      exact ⟨congrArg Governor.damage governor, congrArg Governor.spawns governor, damage, count,
        clamps⟩

end Stroke

/-! ## What grants come to -/

/-- Whether the counters and the report of a call say that it was granted these grants and no other
ones. -/
structure Execution.Spent (limits : Limits α) (gs : List (Grant α)) (s : Execution α) : Prop where
  damage : s.governor.damage = s.report.damageDealt
  spawns : s.governor.spawns = s.report.spawnCount
  clamps : s.report.clamps.toList = gs.filterMap Grant.clamp?
  /-- Nothing below zero is asked for. -/
  positive : ∀ requested ∈ Grant.damages gs, ¬ requested < 0
  allSpawned : limits.spawns = none → s.report.spawnCount = Grant.spawnsAsked gs
  someSpawned : ∀ most, limits.spawns = some most →
    s.report.spawnCount = min (Grant.spawnsAsked gs) most
  allDealt : ∀ {value : α → ℚ}, Exact value → limits.damage = none →
    value s.report.damageDealt = ((Grant.damages gs).map value).sum
  someDealt : ∀ {value : α → ℚ}, Exact value → ∀ most, limits.damage = some most →
    value s.report.damageDealt = min ((Grant.damages gs).map value).sum (max (value most) 0)

namespace Execution.Spent

variable {limits : Limits α} {gs : List (Grant α)}

theorem of_sameBudget (h : s.Spent limits gs) (same : s.SameBudget s') : s'.Spent limits gs where
  damage := by rw [same.damage, same.damageDealt, h.damage]
  spawns := by rw [same.spawns, same.spawnCount, h.spawns]
  clamps := by rw [same.clamps, h.clamps]
  positive := h.positive
  allSpawned := by
    rw [same.spawnCount]
    exact h.allSpawned
  someSpawned := by
    rw [same.spawnCount]
    exact h.someSpawned
  allDealt reading := by
    rw [same.damageDealt]
    exact h.allDealt reading
  someDealt reading := by
    rw [same.damageDealt]
    exact h.someDealt reading

theorem asked_nonneg (h : s.Spent limits gs) {value : α → ℚ} (reading : Exact value) :
    0 ≤ ((Grant.damages gs).map value).sum := by
  refine List.sum_nonneg fun x listed => ?_
  obtain ⟨requested, asked, rfl⟩ := List.mem_map.mp listed
  exact reading.value_nonneg (h.positive requested asked)

theorem spawnsLeft_eq (h : s.Spent limits gs) {most : Nat} (limit : limits.spawns = some most)
    (requested : Nat) :
    s.governor.spawnsLeft limits requested = min requested (most - Grant.spawnsAsked gs) := by
  have spawned := h.someSpawned most limit
  simp only [Governor.spawnsLeft, limit, h.spawns, spawned]
  omega

theorem damageLeft_eq (h : s.Spent limits gs) {value : α → ℚ} (reading : Exact value) {most : α}
    (limit : limits.damage = some most) (requested : α) :
    value (s.governor.damageLeft limits requested) =
      min (value requested) (max (value most - ((Grant.damages gs).map value).sum) 0) := by
  simp only [Governor.damageLeft, limit]
  rw [reading.value_min, reading.value_positivePart, reading.sub, h.damage,
    h.someDealt reading most limit, Ceiling.left_of_min]

theorem answer_follows (h : s.Spent limits gs) (target : EntityId) (d : Demand α) :
    (s.governor.answer limits target d).Follows limits gs := by
  cases d with
  | damage requested =>
      refine ⟨fun limit => ?_, fun reading most limit => h.damageLeft_eq reading limit requested⟩
      simp only [Governor.damageLeft, limit]
  | spawns requested =>
      refine ⟨fun limit => ?_, fun most limit => h.spawnsLeft_eq limit requested⟩
      simp only [Governor.spawnsLeft, limit]

theorem wound (h : s.Spent limits gs) {requested : α} (positive : ¬ requested < 0) :
    (s.grantDamage limits target requested).Spent limits
      (gs ++ [s.governor.answer limits target (.damage requested)]) := by
  have asked : Grant.damages (gs ++ [s.governor.answer limits target (.damage requested)]) =
      Grant.damages gs ++ [requested] := Grant.damages_concat ..
  have spawns : Grant.spawnsAsked (gs ++ [s.governor.answer limits target (.damage requested)]) =
      Grant.spawnsAsked gs := Grant.spawnsAsked_concat ..
  refine
    { damage := congrArg (· + s.governor.damageLeft limits requested) h.damage
      spawns := h.spawns
      clamps := ?clamps
      positive := ?positive
      allSpawned := spawns ▸ h.allSpawned
      someSpawned := spawns ▸ h.someSpawned
      allDealt := fun {value} reading limit => ?allDealt
      someDealt := fun {value} reading most limit => ?someDealt }
  case clamps =>
    rw [List.filterMap_append, ← h.clamps]
    simp only [grantDamage, Governor.answer, List.filterMap_cons, List.filterMap_nil, Grant.clamp?]
    split
    · exact Array.toList_push
    · exact (List.append_nil _).symm
  case positive =>
    rw [asked]
    exact List.forall_mem_append.mpr ⟨h.positive, List.forall_mem_singleton.mpr positive⟩
  case allDealt =>
    have granted : s.governor.damageLeft limits requested = requested := by
      simp only [Governor.damageLeft, limit]
    change value (s.report.damageDealt + s.governor.damageLeft limits requested) = _
    rw [granted, reading.add, h.allDealt reading limit, asked, List.map_append, List.sum_append,
      List.map_singleton, List.sum_singleton]
  case someDealt =>
    change value (s.report.damageDealt + s.governor.damageLeft limits requested) = _
    rw [reading.add, h.damageLeft_eq reading limit, h.someDealt reading most limit, asked,
      List.map_append, List.sum_append, List.map_singleton, List.sum_singleton]
    exact Ceiling.min_add_left _ (h.asked_nonneg reading) (reading.value_nonneg positive)

theorem populate (h : s.Spent limits gs) (requested : Nat) :
    Execution.Spent limits (gs ++ [s.governor.answer limits target (.spawns requested)])
      (let granted := s.grantSpawns limits target requested
       { granted with
         report := { granted.report with
           spawnCount := s.report.spawnCount + s.governor.spawnsLeft limits requested } }) := by
  have asked : Grant.damages (gs ++ [s.governor.answer limits target (.spawns requested)]) =
      Grant.damages gs := (Grant.damages_concat ..).trans (List.append_nil _)
  have spawns : Grant.spawnsAsked (gs ++ [s.governor.answer limits target (.spawns requested)]) =
      Grant.spawnsAsked gs + requested := Grant.spawnsAsked_concat ..
  refine
    { damage := h.damage
      spawns := congrArg (· + s.governor.spawnsLeft limits requested) h.spawns
      clamps := ?clamps
      positive := asked ▸ h.positive
      allSpawned := fun limit => ?allSpawned
      someSpawned := fun most limit => ?someSpawned
      allDealt := asked ▸ h.allDealt
      someDealt := asked ▸ h.someDealt }
  case clamps =>
    rw [List.filterMap_append, ← h.clamps]
    simp only [grantSpawns, Governor.answer, List.filterMap_cons, List.filterMap_nil, Grant.clamp?]
    split
    · exact Array.toList_push
    · exact (List.append_nil _).symm
  case allSpawned =>
    have granted : s.governor.spawnsLeft limits requested = requested := by
      simp only [Governor.spawnsLeft, limit]
    change s.report.spawnCount + s.governor.spawnsLeft limits requested = _
    rw [granted, h.allSpawned limit, spawns]
  case someSpawned =>
    change s.report.spawnCount + s.governor.spawnsLeft limits requested = _
    rw [h.spawnsLeft_eq limit, h.someSpawned most limit, spawns]
    omega

end Execution.Spent

end Grimoire
