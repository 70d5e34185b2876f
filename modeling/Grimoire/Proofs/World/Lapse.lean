import Grimoire.World.Basic

/-! # What a tick does to an entity

Three tables are gone through when an entity comes to a new tick, and then it may go back to a former
type.  Each of the four is done to one slot, so every slot has its own equation; a slot that holds nothing
that ends is left as it is.
-/

namespace Grimoire.Entity

variable {α β : Type} (e : Entity α) (tick : Nat)

theorem get?_revert_of_ne (slot : Slot α β) (other : "transformed" ≠ slot.name) :
    (e.revert tick).get? slot = e.get? slot := by
  unfold revert
  cases e.get? .transformed with
  | none => rfl
  | some t =>
      dsimp only
      split
      · unfold get? clear
        rw [Slot.name_transformed, Std.ExtTreeMap.getElem?_erase, if_neg (by simpa using other)]
      · rfl

variable [Quantity α]

theorem get?_lapse_position : (e.lapse tick).get? .position = e.get? .position := by
  unfold lapse
  rw [get?_revert_of_ne _ _ _ (by simp), get?_update_of_ne _ _ _ _ (by simp),
    get?_update_of_ne _ _ _ _ (by simp), get?_update_of_ne _ _ _ _ (by simp)]

theorem get?_lapse_health :
    (e.lapse tick).get? .health = (e.get? .health).map fun h => (h.expire tick).1 := by
  unfold lapse
  rw [get?_revert_of_ne _ _ _ (by simp), get?_update, get?_update_of_ne _ _ _ _ (by simp),
    get?_update_of_ne _ _ _ _ (by simp)]

theorem get?_lapse_stats :
    (e.lapse tick).get? .stats = (e.get? .stats).map fun s => (s.expire tick).1 := by
  unfold lapse
  rw [get?_revert_of_ne _ _ _ (by simp), get?_update_of_ne _ _ _ _ (by simp), get?_update,
    get?_update_of_ne _ _ _ _ (by simp)]

theorem get?_lapse_statuses :
    (e.lapse tick).get? .statuses = (e.get? .statuses).map (·.expire tick) := by
  unfold lapse
  rw [get?_revert_of_ne _ _ _ (by simp), get?_update_of_ne _ _ _ _ (by simp),
    get?_update_of_ne _ _ _ _ (by simp), get?_update]

theorem lapse_id : (e.lapse tick).id = e.id := by
  have id_update {γ : Type} (e : Entity α) (slot : Slot α γ) (f : γ → γ) :
      (e.update slot f).id = e.id := by
    unfold update
    split <;> rfl
  have id_revert (e : Entity α) : (e.revert tick).id = e.id := by
    unfold revert
    split
    · rfl
    · split <;> rfl
  unfold lapse
  rw [id_revert, id_update, id_update, id_update]

/-- The three tables are gone through without a look at the form of the entity. -/
theorem lapse_eq_revert : ∃ before : Entity α, e.lapse tick = before.revert tick ∧
    before.typeName = e.typeName ∧ before.get? .transformed = e.get? .transformed := by
  have typeName_update {γ : Type} (e : Entity α) (slot : Slot α γ) (f : γ → γ) :
      (e.update slot f).typeName = e.typeName := by
    unfold update
    split <;> rfl
  refine ⟨_, rfl, ?_, ?_⟩
  · rw [typeName_update, typeName_update, typeName_update]
  · rw [get?_update_of_ne _ _ _ _ (by simp), get?_update_of_ne _ _ _ _ (by simp),
      get?_update_of_ne _ _ _ _ (by simp)]

/-- An entity whose transformation has not come to its end keeps its form. -/
theorem lapse_stays (stays : ∀ t, e.get? .transformed = some t → t.isLapsed tick = false) :
    (e.lapse tick).typeName = e.typeName ∧
      (e.lapse tick).get? .transformed = e.get? .transformed := by
  obtain ⟨before, same, typeName, record⟩ := e.lapse_eq_revert tick
  rw [same, ← typeName, ← record]
  rw [← record] at stays
  unfold revert
  cases held : before.get? .transformed with
  | none => exact ⟨rfl, held⟩
  | some t =>
      simp only [stays t held, Bool.false_eq_true, if_false]
      exact ⟨trivial, held⟩

/-- When a transformation comes to its end, the entity is what it was before, and no record is left. -/
theorem lapse_reverts {t : Transformation} (held : e.get? .transformed = some t)
    (ends : t.isLapsed tick = true) :
    (e.lapse tick).typeName = t.formerType ∧ (e.lapse tick).get? .transformed = none := by
  obtain ⟨before, same, -, record⟩ := e.lapse_eq_revert tick
  rw [same]
  rw [← record] at held
  unfold revert
  simp only [held, ends, if_true]
  refine ⟨rfl, ?_⟩
  simp [get?, clear]

end Grimoire.Entity
