import Grimoire.Proofs.Number.Rounding
import Grimoire.Proofs.World.Mentions

/-! # Pools between zero and their maximum

Whatever changes a pool or its maximum restores the bounds, each in its own way: damage stops at zero,
healing at the maximum, and a maximum that falls takes the pool with it.  None of this depends on the
boosts that are outstanding, nor on what they add up to when several lapse at once.
-/

namespace Grimoire

open Quantity (isNaN positivePart)
open Quantity.Ordered (zero_le_positivePart)

variable {α β : Type}

/-- Whether a pool is between zero and its maximum. -/
structure Health.Bounded [Quantity α] (h : Health α) : Prop where
  nonneg : 0 ≤ h.current
  le_max : h.current ≤ h.max

namespace Health.Bounded

variable [Quantity α] [Quantity.Rounded α] {h : Health α}

theorem max_nonneg (bounded : h.Bounded) : 0 ≤ h.max :=
  Quantity.Rounded.le_trans bounded.nonneg bounded.le_max

theorem withMax (bounded : h.Bounded) {max : α} (nonneg : 0 ≤ max) : (h.withMax max).Bounded where
  nonneg := Quantity.Rounded.min_nonneg bounded.nonneg nonneg
  le_max := Quantity.Rounded.min_le (Quantity.Rounded.isNaN_of_le nonneg).2

theorem adjustMax (bounded : h.Bounded) (amount : α) (expiresAt : Option Nat) :
    (h.adjustMax amount expiresAt).Bounded := by
  have changed := bounded.withMax (zero_le_positivePart (h.max + amount))
  cases expiresAt with
  | none => exact changed
  | some => exact ⟨changed.nonneg, changed.le_max⟩

theorem setMax (bounded : h.Bounded) (value : α) : (h.setMax value).Bounded := by
  have changed := bounded.withMax (zero_le_positivePart value)
  exact ⟨changed.nonneg, changed.le_max⟩

theorem expire (bounded : h.Bounded) (tick : Nat) : (h.expire tick).1.Bounded := by
  have changed (undo : α) := bounded.withMax (zero_le_positivePart (h.max - undo))
  unfold Health.expire
  dsimp only
  split
  · exact bounded
  · exact ⟨(changed _).nonneg, (changed _).le_max⟩

theorem damage (bounded : h.Bounded) {amount : α} (nonneg : 0 ≤ amount) :
    (h.damage amount).Bounded where
  nonneg := zero_le_positivePart _
  le_max := Quantity.Rounded.le_trans
    (Quantity.Rounded.positivePart_sub_le bounded.nonneg nonneg) bounded.le_max

theorem heal (bounded : h.Bounded) {amount : α} (nonneg : 0 ≤ amount) :
    (h.heal amount).Bounded where
  nonneg := Quantity.Rounded.min_nonneg (Quantity.Rounded.add_nonneg bounded.nonneg nonneg)
    bounded.max_nonneg
  le_max := Quantity.Rounded.min_le (Quantity.Rounded.isNaN_of_le bounded.le_max).2

/-- A pool within its bounds can always be set, and what is set is within them again. -/
theorem setCurrent? (bounded : h.Bounded) (value : α) :
    ∃ h', h.setCurrent? value = some h' ∧ (isNaN value = false → h'.Bounded) := by
  have order := bounded.max_nonneg
  have numbers := Quantity.Rounded.isNaN_of_le order
  refine ⟨{ h with current := Quantity.confine 0 h.max value }, ?_, fun number => ?_⟩
  · unfold Health.setCurrent? Quantity.confine?
    rw [if_pos order]
    rfl
  · have low : 0 ≤ Quantity.confine 0 h.max value := by
      unfold Quantity.confine
      split
      · exact Quantity.Ordered.zero_le_zero
      · next above =>
          split
          · exact order
          · exact Quantity.Ordered.le_of_not_lt numbers.1 number above
    have high : Quantity.confine 0 h.max value ≤ h.max := by
      unfold Quantity.confine
      split
      · exact order
      · split
        · exact Quantity.Rounded.le_self numbers.2
        · next below => exact Quantity.Ordered.le_of_not_lt number numbers.2 below
    exact ⟨low, high⟩

end Health.Bounded

/-! ## Entities -/

/-- Whether all pools of an entity are within their bounds, also one that is not kept under the name of
health. -/
def Entity.HealthBounded [Quantity α] (e : Entity α) : Prop :=
  ∀ (key : String) (h : Health α), e.components[key]? = some (.health h) → h.Bounded

namespace Entity.HealthBounded

section

variable [Quantity α] {e : Entity α} {slot : Slot α β}

theorem bare (id : EntityId) (typeName : String) :
    ({ id := id, typeName := typeName } : Entity α).HealthBounded := by
  intro key h kept
  simp at kept

theorem get? (bounded : e.HealthBounded) {h : Health α} (held : e.get? .health = some h) :
    h.Bounded :=
  bounded _ h (component_of_get? Slot.exact_health held)

theorem put (bounded : e.HealthBounded) {x : β} (fits : ∀ h, slot.wrap x = .health h → h.Bounded) :
    (e.put slot x).HealthBounded := by
  intro key h kept
  rcases component_put kept with written | before
  · exact fits h written.symm
  · exact bounded key h before

theorem putHealth (bounded : e.HealthBounded) {h : Health α} (fits : h.Bounded) :
    (e.put .health h).HealthBounded := by
  refine bounded.put fun h' same => ?_
  cases same
  exact fits

theorem clear (bounded : e.HealthBounded) : (e.clear slot).HealthBounded := by
  intro key h kept
  unfold Entity.clear at kept
  rw [Std.ExtTreeMap.getElem?_erase] at kept
  split at kept
  · cases kept
  · exact bounded key h kept

theorem update (bounded : e.HealthBounded) {f : β → β}
    (fits : ∀ x, e.get? slot = some x → ∀ h, slot.wrap (f x) = .health h → h.Bounded) :
    (e.update slot f).HealthBounded := by
  unfold Entity.update
  cases held : e.get? slot with
  | none => exact bounded
  | some x => exact bounded.put (fits x held)

theorem revert (bounded : e.HealthBounded) (tick : Nat) : (e.revert tick).HealthBounded := by
  unfold Entity.revert
  cases e.get? .transformed with
  | none => exact bounded
  | some t =>
      dsimp only
      split
      · exact clear (e := { e with typeName := t.formerType }) bounded
      · exact bounded

end

variable [Quantity α] [Quantity.Rounded α] {e : Entity α}

theorem lapse (bounded : e.HealthBounded) (tick : Nat) : (e.lapse tick).HealthBounded := by
  have statuses : (e.update .statuses (·.expire tick)).HealthBounded :=
    bounded.update nofun
  have stats : ((e.update .statuses (·.expire tick)).update .stats fun s =>
      (s.expire tick).1).HealthBounded := statuses.update nofun
  refine (stats.update fun h held h' same => ?_).revert tick
  cases same
  exact (stats.get? held).expire tick

end Entity.HealthBounded

/-! ## Worlds -/

/-- Whether all pools in a world are within their bounds. -/
def World.HealthBounded [Quantity α] (w : World α) : Prop :=
  ∀ id e, w.entity? id = some e → e.HealthBounded

namespace World.HealthBounded

variable [Quantity α] {w : World α}

theorem place (bounded : w.HealthBounded) {target : EntityId} {e : Entity α}
    (fits : e.HealthBounded) : (w.place target e).HealthBounded := by
  intro id e' found
  rcases World.found_of_place found with ⟨rfl, rfl⟩ | ⟨-, found⟩
  · exact fits
  · exact bounded id e' found

theorem spawn (bounded : w.HealthBounded) (build : EntityId → Entity α)
    (fits : (build w.nextId).HealthBounded) : (w.spawn build).2.HealthBounded :=
  place (w := { w with nextId := w.nextId + 1 }) bounded fits

theorem create (bounded : w.HealthBounded) (typeName : String) :
    (w.create typeName).2.HealthBounded :=
  bounded.spawn (fun id => { id := id, typeName := typeName }) (.bare _ typeName)

theorem update (bounded : w.HealthBounded) {f : Entity α → Entity α}
    (fits : ∀ e, e.HealthBounded → (f e).HealthBounded) (target : EntityId) :
    (w.update target f).HealthBounded := by
  unfold World.update
  cases found : w.entity? target with
  | none => exact bounded
  | some e => exact bounded.place (fits e (bounded target e found))

theorem emit {w' : World α} (bounded : w.HealthBounded) {event : Event α}
    (room : w.emit? event = some w') : w'.HealthBounded := by
  unfold World.emit? at room
  split at room
  · cases room
  · cases room
    exact bounded

theorem advance [Quantity.Rounded α] (bounded : w.HealthBounded) : w.advance.2.HealthBounded := by
  intro id e found
  rw [World.entity?_advance] at found
  obtain ⟨before, was, rfl⟩ := Option.map_eq_some_iff.mp found
  exact (bounded id before was).lapse _

end World.HealthBounded

end Grimoire
