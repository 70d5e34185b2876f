import Grimoire.Proofs.World.Lapse

/-! # Places inside the bounds

A point is enclosed by the bounds of a world when it is finite and between the edges, the edges included;
a value that is no number compares with nothing, so it is never enclosed.  A world is confined when
whatever has a place in it is inside.  Time moves nothing: what ends with a tick is never a place.
-/

namespace Grimoire

variable {α β : Type}

/-- Whether a point is finite and between the edges of a rectangle. -/
structure Bounds.Encloses [Scalar α] (b : Bounds α) (p : Position α) : Prop where
  finite_x : Scalar.isFinite p.x = true
  finite_y : Scalar.isFinite p.y = true
  low_x : b.low.x ≤ p.x
  high_x : p.x ≤ b.high.x
  low_y : b.low.y ≤ p.y
  high_y : p.y ≤ b.high.y

theorem Bounds.contains_iff [Scalar α] {b : Bounds α} {p : Position α} :
    b.contains p = true ↔ b.Encloses p := by
  unfold Bounds.contains Position.isFinite
  simp only [Bool.and_eq_true, decide_eq_true_eq]
  constructor
  · rintro ⟨⟨⟨⟨⟨finite_x, finite_y⟩, low_x⟩, high_x⟩, low_y⟩, high_y⟩
    exact ⟨finite_x, finite_y, low_x, high_x, low_y, high_y⟩
  · intro h
    exact ⟨⟨⟨⟨⟨h.finite_x, h.finite_y⟩, h.low_x⟩, h.high_x⟩, h.low_y⟩, h.high_y⟩

/-! ## Worlds -/

namespace World

variable [Scalar α] {w : World α}

/-- Whether all entities that have a place are inside the bounds. -/
def Confined (w : World α) : Prop :=
  ∀ id p, w.get? id .position = some p → w.bounds.Encloses p

namespace Confined

theorem place (confined : w.Confined) {target : EntityId} {e : Entity α}
    (inside : ∀ p, e.get? .position = some p → w.bounds.Encloses p) :
    (w.place target e).Confined := by
  intro id p held
  show w.bounds.Encloses p
  by_cases same : target = id
  · subst same
    rw [get?_place] at held
    exact inside p held
  · rw [get?_place_of_ne _ _ _ same] at held
    exact confined id p held

/-- An entity that is there may be replaced by one that has not been moved. -/
theorem replace (confined : w.Confined) {target : EntityId} {e e' : Entity α}
    (found : w.entity? target = some e) (still : e'.get? .position = e.get? .position) :
    (w.place target e').Confined := by
  refine confined.place fun p held => ?_
  have was : w.get? target .position = some p := by
    unfold get?
    rw [found]
    exact still.symm.trans held
  exact confined target p was

theorem spawn (confined : w.Confined) (build : EntityId → Entity α)
    (inside : ∀ p, (build w.nextId).get? .position = some p → w.bounds.Encloses p) :
    (w.spawn build).2.Confined :=
  place (w := { w with nextId := w.nextId + 1 }) confined inside

theorem emit {w' : World α} (confined : w.Confined) {event : Event α}
    (room : w.emit? event = some w') : w'.Confined := by
  unfold World.emit? at room
  split at room
  · cases room
  · cases room
    exact confined

theorem advance (confined : w.Confined) : w.advance.2.Confined := by
  intro id p held
  show w.bounds.Encloses p
  rw [get?_advance] at held
  obtain ⟨e, found, own⟩ := Option.bind_eq_some_iff.mp held
  rw [Entity.get?_lapse_position] at own
  exact confined id p (Option.bind_eq_some_iff.mpr ⟨e, found, own⟩)

end Confined

end World

end Grimoire
