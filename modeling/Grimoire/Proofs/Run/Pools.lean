import Grimoire.Proofs.Number.Order
import Grimoire.Proofs.Run.Moves

/-! # Pools whose maximum is not below zero

The pool of an entity can be set wherever its maximum is not below zero.  Whatever changes a maximum
keeps it there, so in a world whose pools are in order they stay in order.
-/

namespace Grimoire

variable {α : Type} [Scalar α]

/-- Whether a pool, if there is one, has a maximum that is not below zero. -/
def Health.InOrder (held : Option (Health α)) : Prop := ∀ h, held = some h → 0 ≤ h.max

def World.PoolsInOrder (w : World α) : Prop := ∀ id, Health.InOrder (w.get? id .health)

section

variable [Quantity.Ordered α]

theorem Write.inOrder {v : Vocabulary} {bounds : Bounds α} {target : EntityId} {e e' : Entity α}
    {f : Report α → Report α} (h : Write v bounds target e e' f)
    (order : Health.InOrder (e.get? .health)) : Health.InOrder (e'.get? .health) := by
  have pool (h' : Health α) (nonneg : 0 ≤ h'.max) :
      Health.InOrder ((e.put .health h').get? .health) := by
    rw [Entity.get?_put]
    rintro _ ⟨⟩
    exact nonneg
  have elsewhere {β : Type} (slot : Slot α β) (x : β) (other : slot.name ≠ "health") :
      Health.InOrder ((e.put slot x).get? .health) := by
    rw [Entity.get?_put_of_ne _ _ _ _ other]
    exact order
  cases h with
  | heal amount held | damage amount held =>
      have nonneg := order _ held
      exact pool _ nonneg
  | setHealth value held set =>
      obtain ⟨current, -, rfl⟩ := Option.map_eq_some_iff.mp set
      have nonneg := order _ held
      exact pool _ nonneg
  | adjustMax amount expiresAt =>
      refine pool _ ?_
      cases expiresAt <;> exact Quantity.Ordered.zero_le_positivePart _
  | setMax => exact pool _ (Quantity.Ordered.zero_le_positivePart _)
  | applyStatus | removeStatus => exact elsewhere .statuses _ (by simp)
  | changeStat | setStat => exact elsewhere .stats _ (by simp)
  | move => exact elsewhere .position _ (by simp)
  | transform => exact elsewhere .transformed _ (by simp)
  | material => exact elsewhere .material _ (by simp)

omit [Scalar α] [Quantity.Ordered α] in
theorem Cast.get?_furnish_health (place : Position α) (itemId : Option String) (id : EntityId)
    (typeName : String) :
    (Cast.furnish place itemId { id := id, typeName := typeName }).get? .health = none := by
  cases itemId with
  | none => simp [Cast.furnish, Entity.get?, Entity.put]
  | some => simp [Cast.furnish, Entity.get?, Entity.put]

theorem Move.poolsInOrder {c : Cast α} {target : EntityId} {s s' : Execution α}
    (h : Move c target s s') (order : s.world.PoolsInOrder) : s'.world.PoolsInOrder := by
  cases h with
  | draw drawn =>
      rw [drawn.world]
      exact order
  | restore | wound | allot => exact order
  | spawn typeName itemId place inside =>
      intro id
      by_cases new : s.world.nextId = id
      · subst new
        rw [World.get?, Execution.entity?_addEntity]
        change Health.InOrder (Entity.get? _ _)
        rw [Cast.get?_furnish_health]
        exact fun h held => by cases held
      · rw [World.get?, Execution.entity?_addEntity_of_ne _ _ _ new]
        exact order id
  | emit event world room =>
      unfold World.emit? at room
      split at room
      · cases room
      · cases room
        exact order
  | write found written =>
      intro id
      by_cases same : target = id
      · subst same
        rw [World.get?, World.entity?_place]
        have before := order target
        rw [World.get?, found] at before
        exact written.inOrder before
      · rw [World.get?, World.entity?_place_of_ne _ _ same]
        exact order id

end

end Grimoire
