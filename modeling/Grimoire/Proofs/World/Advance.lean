import Grimoire.Proofs.World.Numbering
import Grimoire.Proofs.World.Timed

/-! # What a tick does to a world

With a tick everything goes whose end has been reached, and nothing else changes: not what is permanent
or ends later, not what is kept under a well-known name but is of another kind, and nothing outside of
the entities but the tick itself.  The report lists what went.  Its order is that of the numbers and of
the names; in which order a table would list its statuses is of no account.
-/

namespace Grimoire

open Quantity (positivePart)

variable {α β : Type}

/-- Whether an end is still ahead at a tick; where there is none, it always is. -/
def isAhead (expiresAt : Option Nat) (tick : Nat) : Bool := expiresAt.all (tick < ·)

theorem decide_le_eq (t tick : Nat) : decide (t ≤ tick) = !decide (tick < t) :=
  (decide_eq_decide.mpr Nat.not_lt.symm).trans decide_not

theorem any_le_eq (expiresAt : Option Nat) (tick : Nat) :
    expiresAt.any (· ≤ tick) = !isAhead expiresAt tick := by
  cases expiresAt with
  | none => rfl
  | some t => exact decide_le_eq t tick

theorem Transformation.isLapsed_eq_not_isAhead (t : Transformation) (tick : Nat) :
    t.isLapsed tick = !isAhead t.expiresAt tick :=
  (t.isLapsed_eq tick).trans (any_le_eq _ _)

/-! ## Pools and entities -/

/-- A pool as a tick leaves it.  If no change of its maximum goes, it is not touched at all. -/
structure Health.Ticked [Quantity α] (h : Health α) (tick : Nat) (h' : Health α) : Prop where
  boosts : h'.boosts = h.boosts.filter fun b => tick < b.expiresAt
  untouched : (∀ b ∈ h.boosts, tick < b.expiresAt) → h' = h
  max : (∃ b ∈ h.boosts, b.expiresAt ≤ tick) → h'.max = positivePart
    (h.max - Quantity.sum ((h.boosts.filter fun b => b.expiresAt ≤ tick).map (·.applied)))
  current : (∃ b ∈ h.boosts, b.expiresAt ≤ tick) → h'.current = Quantity.min h.current h'.max

/-- An entity as a tick leaves it. -/
structure Entity.Ticked [Quantity α] (e : Entity α) (tick : Nat) (e' : Entity α) : Prop where
  id : e'.id = e.id
  statuses : ∀ {s}, e.get? .statuses = some s → ∃ s', e'.get? .statuses = some s' ∧
    ∀ name, s'.get? name = (s.get? name).filter fun entry => isAhead entry.expiresAt tick
  stats : ∀ {s}, e.get? .stats = some s → ∃ s', e'.get? .stats = some s' ∧ s'.base = s.base ∧
    s'.modifiers = s.modifiers.filter fun m => isAhead m.expiresAt tick
  health : ∀ {h}, e.get? .health = some h → ∃ h', e'.get? .health = some h' ∧ h.Ticked tick h'
  reverts : ∀ {t}, e.get? .transformed = some t → isAhead t.expiresAt tick = false →
    e'.typeName = t.formerType ∧ e'.components["transformed"]? = none
  stays : (∀ t, e.get? .transformed = some t → isAhead t.expiresAt tick = true) →
    e'.typeName = e.typeName
  others : ∀ {name}, (name = "statuses" → e.get? .statuses = none) →
    (name = "stats" → e.get? .stats = none) → (name = "health" → e.get? .health = none) →
    (name = "transformed" → ∀ t, e.get? .transformed = some t → isAhead t.expiresAt tick = true) →
    e'.components[name]? = e.components[name]?

theorem Health.ticked_expire [Quantity α] (h : Health α) (tick : Nat) :
    h.Ticked tick (h.expire tick).1 := by
  have boosts : (h.expire tick).1.boosts = h.boosts.filter fun b => tick < b.expiresAt :=
    (boosts_expire h tick).trans (by simp only [decide_le_eq, Bool.not_not])
  have none_iff : (h.boosts.filter fun b => b.expiresAt ≤ tick).isEmpty = true ↔
      ∀ b ∈ h.boosts, tick < b.expiresAt := by
    simp
  refine ⟨boosts, fun later => ?_, fun some => ?_, fun some => ?_⟩
  · unfold expire
    rw [if_pos (none_iff.mpr later)]
  all_goals
    obtain ⟨b, listed, due⟩ := some
    have any := fun none => Nat.not_lt.mpr due (none_iff.mp none b listed)
    unfold expire
    rw [if_neg any]
    rfl

namespace Entity

/-- What is kept under a name is not touched by a change of a slot of another name, nor by one of the slot
of that name if something of another kind is kept there. -/
theorem components_update (e : Entity α) (slot : Slot α β) (f : β → β) {name : String}
    (other : name = slot.name → e.get? slot = none) :
    (e.update slot f).components[name]? = e.components[name]? := by
  unfold update
  cases held : e.get? slot with
  | none => rfl
  | some x =>
      have apart : slot.name ≠ name := fun same => by simp [other same.symm] at held
      simp [put, Std.ExtTreeMap.getElem?_insert, apart]

theorem components_revert (e : Entity α) (tick : Nat) {name : String}
    (other : name = "transformed" → ∀ t, e.get? .transformed = some t → t.isLapsed tick = false) :
    (e.revert tick).components[name]? = e.components[name]? := by
  unfold revert
  cases held : e.get? .transformed with
  | none => rfl
  | some t =>
      dsimp only
      split
      · next ends =>
        have apart : "transformed" ≠ name := fun same => by simp [other same.symm t held] at ends
        simp [clear, Std.ExtTreeMap.getElem?_erase, apart]
      · rfl

theorem revert_eq_clear {e : Entity α} {tick : Nat} {t : Transformation}
    (held : e.get? .transformed = some t) (ends : t.isLapsed tick = true) :
    e.revert tick = { e with typeName := t.formerType }.clear .transformed := by
  simp [revert, held, ends]

variable [Quantity α]

theorem ticked_lapse (e : Entity α) (tick : Nat) : e.Ticked tick (e.lapse tick) where
  id := e.lapse_id tick
  statuses {s} held := by
    refine ⟨s.expire tick, by rw [get?_lapse_statuses, held]; rfl, fun name => ?_⟩
    simp only [Statuses.get?_expire, Statuses.isLapsed_eq, any_le_eq, Bool.not_not]
  stats {s} held := by
    refine ⟨(s.expire tick).1, by rw [get?_lapse_stats, held]; rfl, rfl, ?_⟩
    simp only [StatBlock.expire, StatModifier.isLapsed_eq, any_le_eq, Bool.not_not]
  health {h} held := ⟨(h.expire tick).1, by rw [get?_lapse_health, held]; rfl, h.ticked_expire tick⟩
  reverts {t} held reached := by
    have ends : t.isLapsed tick = true := by rw [Transformation.isLapsed_eq_not_isAhead, reached]; rfl
    obtain ⟨before, same, -, record⟩ := e.lapse_eq_revert tick
    rw [same, revert_eq_clear (record.trans held) ends]
    exact ⟨rfl, Std.ExtTreeMap.getElem?_erase_self⟩
  stays ahead := by
    refine (e.lapse_stays tick fun t held => ?_).1
    rw [Transformation.isLapsed_eq_not_isAhead, ahead t held]
    rfl
  others {name} statuses stats health transformed := by
    unfold lapse
    rw [components_revert _ _ fun same t held => ?_, components_update _ _ _ fun same => ?_,
      components_update _ _ _ fun same => ?_, components_update _ _ _ statuses]
    · rw [get?_update_of_ne _ _ _ _ (by simp)]
      exact stats same
    · rw [get?_update_of_ne _ _ _ _ (by simp), get?_update_of_ne _ _ _ _ (by simp)]
      exact health same
    · rw [get?_update_of_ne _ _ _ _ (by simp), get?_update_of_ne _ _ _ _ (by simp),
        get?_update_of_ne _ _ _ _ (by simp)] at held
      rw [Transformation.isLapsed_eq_not_isAhead, transformed same t held]
      rfl

end Entity

/-! ## Worlds and reports -/

/-- A world as a tick leaves it. -/
structure World.Ticked [Quantity α] (w w' : World α) : Prop where
  tick : w'.tick = w.tick + 1
  bounds : w'.bounds = w.bounds
  events : w'.events = w.events
  eventCapacity : w'.eventCapacity = w.eventCapacity
  nextId : w'.nextId = w.nextId
  ids : w'.ids = w.ids
  entities : ∀ {id e}, w.entity? id = some e →
    ∃ e', w'.entity? id = some e' ∧ e.Ticked w'.tick e'

/-- The ends of the changes of stats and of the maximum of health on an entity. -/
def Entity.ends (e : Entity α) : List (Option Nat) :=
  e.statBlock.modifiers.map (·.expiresAt) ++ e.boosts.map fun b => some b.expiresAt

/-- The statuses on an entity of a world, by name; on nobody there are none. -/
def World.statusList (w : World α) (id : EntityId) : List (String × StatusEntry) :=
  ((w.entity? id).map fun e => e.statusTable.entries.toList).getD []

/-- Whether a status on an entity has an end that a tick has reached. -/
def World.Expires (w : World α) (tick : Nat) (id : EntityId) (name : String) : Prop :=
  ∃ e s entry, w.entity? id = some e ∧ e.get? .statuses = some s ∧ s.get? name = some entry ∧
    isAhead entry.expiresAt tick = false

/-- Whether the form of an entity has an end that a tick has reached. -/
def World.Reverts (w : World α) (tick : Nat) (id : EntityId) : Prop :=
  ∃ e t, w.entity? id = some e ∧ e.get? .transformed = some t ∧ isAhead t.expiresAt tick = false

/-- A report that tells what a tick took from a world. -/
structure TickReport.Tells (r : TickReport) (w : World α) : Prop where
  tick : r.tick = w.tick + 1
  expired : ∀ {id name}, (id, name) ∈ r.expiredStatuses ↔ w.Expires r.tick id name
  ordered : r.expiredStatuses.Pairwise fun a b => a.1 < b.1 ∨ a.1 = b.1 ∧ a.2 < b.2
  anyOrder : ∀ tables : EntityId → List (String × StatusEntry),
    (∀ id, (tables id).Perm (w.statusList id)) →
      r.expiredStatuses = w.ids.flatMap fun id =>
        (((tables id).filter fun p => !isAhead p.2.expiresAt r.tick).map (·.1)).mergeSort.map (id, ·)
  lapsed : r.lapsedModifiers =
    (w.entities.toList.flatMap (·.2.ends)).countP fun expiresAt => !isAhead expiresAt r.tick
  reverted : ∀ {id}, id ∈ r.reverted ↔ w.Reverts r.tick id
  ascending : r.reverted.Pairwise (· < ·)

theorem StatBlock.snd_expire (s : StatBlock α) (tick : Nat) :
    (s.expire tick).2 = s.modifiers.countP (·.isLapsed tick) := by
  have parts := s.modifiers.length_eq_countP_add_countP (·.isLapsed tick)
  have kept : (s.modifiers.filter fun m => !m.isLapsed tick).length =
      s.modifiers.countP fun m => !m.isLapsed tick := List.countP_eq_length_filter.symm
  simp only [Bool.not_eq_true, Bool.decide_eq_false] at parts
  change _ - (s.modifiers.filter _).length = _
  omega

theorem Health.snd_expire [Quantity α] (h : Health α) (tick : Nat) :
    (h.expire tick).2 = h.boosts.countP fun b => b.expiresAt ≤ tick := by
  rw [List.countP_eq_length_filter]
  unfold expire
  dsimp only
  split
  · next none => rw [List.isEmpty_iff.mp none]; rfl
  · rfl

namespace Entity

theorem lapsedStatuses_eq (e : Entity α) (tick : Nat) :
    e.lapsedStatuses tick =
      (e.statusTable.entries.toList.filter fun p => !isAhead p.2.expiresAt tick).map (·.1) := by
  unfold lapsedStatuses statusTable
  cases e.get? .statuses with
  | none => rfl
  | some s =>
      simp [Statuses.lapsed, Statuses.isLapsed_eq, any_le_eq]

theorem pairwise_lapsedStatuses (e : Entity α) (tick : Nat) :
    (e.lapsedStatuses tick).Pairwise (· < ·) := by
  rw [lapsedStatuses_eq, List.pairwise_map]
  exact (Std.ExtTreeMap.ordered_keys_toList.imp compare_lt_iff_lt.mp).filter _

theorem mem_lapsedStatuses {e : Entity α} {tick : Nat} {name : String} :
    name ∈ e.lapsedStatuses tick ↔ ∃ s entry, e.get? .statuses = some s ∧
      s.get? name = some entry ∧ isAhead entry.expiresAt tick = false := by
  unfold lapsedStatuses
  cases held : e.get? .statuses with
  | none => simp
  | some s =>
      simp [Statuses.lapsed, Statuses.isLapsed_eq, any_le_eq, Statuses.get?,
        Std.ExtTreeMap.mem_toList_iff_getElem?_eq_some]

variable [Quantity α]

theorem lapsedModifiers_eq (e : Entity α) (tick : Nat) :
    e.lapsedModifiers tick = e.ends.countP fun expiresAt => !isAhead expiresAt tick := by
  have stats : ((e.get? .stats).map fun s => (s.expire tick).2).getD 0 =
      e.statBlock.modifiers.countP fun m => !isAhead m.expiresAt tick := by
    unfold statBlock
    cases e.get? .stats with
    | none => rfl
    | some s =>
        simp only [← any_le_eq, ← StatModifier.isLapsed_eq]
        exact s.snd_expire tick
  have health : ((e.get? .health).map fun h => (h.expire tick).2).getD 0 =
      e.boosts.countP fun b => !isAhead (some b.expiresAt) tick := by
    unfold boosts
    cases e.get? .health with
    | none => rfl
    | some h =>
        simp only [← any_le_eq]
        exact h.snd_expire tick
  rw [lapsedModifiers, stats, health, ends, List.countP_append, List.countP_map, List.countP_map]
  rfl

end Entity

theorem mergeSort_eq_of_perm {names mixed : List String} (perm : mixed.Perm names)
    (ordered : names.Pairwise (· < ·)) : mixed.mergeSort = names := by
  have rising : names.SortedLE := (ordered.imp le_of_lt).sortedLE
  exact List.Perm.eq_of_sortedLE List.sortedLE_mergeSort rising ((mixed.mergeSort_perm _).trans perm)

namespace World

theorem pairwise_toList (w : World α) : w.entities.toList.Pairwise fun a b => a.1 < b.1 :=
  Std.ExtTreeMap.ordered_keys_toList.imp Nat.compare_eq_lt.mp

theorem mem_toList {w : World α} {id : EntityId} {e : Entity α} :
    (id, e) ∈ w.entities.toList ↔ w.entity? id = some e :=
  Std.ExtTreeMap.mem_toList_iff_getElem?_eq_some

variable [Quantity α] (w : World α)

theorem ticked_advance : w.Ticked w.advance.2 where
  tick := rfl
  bounds := rfl
  events := rfl
  eventCapacity := rfl
  nextId := rfl
  ids := Std.ExtTreeMap.keys_map
  entities {id e} found :=
    ⟨e.lapse (w.tick + 1), by rw [entity?_advance, found]; rfl, e.ticked_lapse _⟩

theorem pairwise_expiredStatuses (tick : Nat) :
    (w.lapsing tick).expiredStatuses.Pairwise fun a b => a.1 < b.1 ∨ a.1 = b.1 ∧ a.2 < b.2 := by
  refine List.pairwise_flatMap.mpr ⟨fun (id, e) _ => ?_, w.pairwise_toList.imp fun {a b} less => ?_⟩
  · exact List.pairwise_map.mpr ((e.pairwise_lapsedStatuses tick).imp fun less => .inr ⟨rfl, less⟩)
  · simp only [List.mem_map, forall_exists_index, and_imp, forall_apply_eq_imp_iff₂]
    exact fun _ _ _ _ => .inl less

theorem mem_expiredStatuses {tick : Nat} {id : EntityId} {name : String} :
    (id, name) ∈ (w.lapsing tick).expiredStatuses ↔ w.Expires tick id name := by
  unfold lapsing Expires
  simp only [List.mem_flatMap, List.mem_map, Prod.exists, Prod.mk.injEq, mem_toList,
    exists_eq_right_right, Entity.mem_lapsedStatuses]
  constructor
  · rintro ⟨id, e, found, ⟨s, entry, lapsed⟩, rfl⟩
    exact ⟨e, s, entry, found, lapsed⟩
  · rintro ⟨e, s, entry, found, lapsed⟩
    exact ⟨id, e, found, ⟨s, entry, lapsed⟩, rfl⟩

theorem expiredStatuses_eq {tick : Nat} {tables : EntityId → List (String × StatusEntry)}
    (same : ∀ id, (tables id).Perm (w.statusList id)) :
    (w.lapsing tick).expiredStatuses = w.ids.flatMap fun id =>
      (((tables id).filter fun p => !isAhead p.2.expiresAt tick).map (·.1)).mergeSort.map (id, ·) := by
  have listed : w.ids = w.entities.toList.map (·.1) := Std.ExtTreeMap.map_fst_toList_eq_keys.symm
  rw [listed, List.flatMap_map]
  refine List.flatMap_congr fun (id, e) there => congrArg (List.map _) ?_
  have found : w.statusList id = e.statusTable.entries.toList := by
    rw [statusList, mem_toList.mp there]
    rfl
  have mixed : (tables id).Perm e.statusTable.entries.toList := found ▸ same id
  have perm := (mixed.filter fun p => !isAhead p.2.expiresAt tick).map (·.1)
  rw [← Entity.lapsedStatuses_eq] at perm
  exact (mergeSort_eq_of_perm perm (e.pairwise_lapsedStatuses tick)).symm

theorem lapsedModifiers_lapsing (tick : Nat) : (w.lapsing tick).lapsedModifiers =
    (w.entities.toList.flatMap (·.2.ends)).countP fun expiresAt => !isAhead expiresAt tick := by
  rw [List.countP_flatMap, List.sum_eq_foldl, List.foldl_map]
  simp only [lapsing, Entity.lapsedModifiers_eq]
  rfl

theorem mem_reverted {tick : Nat} {id : EntityId} :
    id ∈ (w.lapsing tick).reverted ↔ w.Reverts tick id := by
  unfold lapsing Reverts
  simp only [List.mem_map, List.mem_filter, Prod.exists, mem_toList, exists_and_right, exists_eq_right]
  refine exists_congr fun e => ?_
  unfold Entity.isReverting
  cases e.get? .transformed with
  | none => simp
  | some t => simp [Transformation.isLapsed_eq_not_isAhead]

theorem tells_advance : w.advance.1.Tells w where
  tick := rfl
  expired := w.mem_expiredStatuses
  ordered := w.pairwise_expiredStatuses _
  anyOrder _ same := w.expiredStatuses_eq same
  lapsed := w.lapsedModifiers_lapsing _
  reverted := w.mem_reverted
  ascending := List.pairwise_map.mpr (w.pairwise_toList.filter _)

/-- A tick takes what is due and nothing else, and its report lists all of it. -/
theorem advance_takes_what_is_due (w : World α) : w.Ticked w.advance.2 ∧ w.advance.1.Tells w :=
  ⟨w.ticked_advance, w.tells_advance⟩

end World

end Grimoire
