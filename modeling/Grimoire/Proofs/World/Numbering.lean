import Grimoire.Proofs.Run.Moves

/-! # Which entities a world has

Placing an entity adds its number, and nothing else in the library but spawning adds one.  In a world
that is `Numbered`, numbers are never given out twice.
-/

namespace Grimoire

variable {α : Type}

namespace World

theorem has_place {w : World α} {id other : EntityId} {e : Entity α} :
    (w.place id e).has other = true ↔ other = id ∨ w.has other = true := by
  rw [has_eq_isSome, has_eq_isSome]
  by_cases same : id = other
  · subst same
    simp [entity?_place]
  · simp [entity?_place_of_ne w e same, Ne.symm same]

theorem has_place_of_has {w : World α} {id : EntityId} {e : Entity α} (there : w.has id = true)
    (other : EntityId) : (w.place id e).has other = true ↔ w.has other = true := by
  rw [has_place]
  refine ⟨?_, .inr⟩
  rintro (rfl | there')
  · exact there
  · exact there'

theorem has_of_entity? {w : World α} {id : EntityId} {e : Entity α} (found : w.entity? id = some e) :
    w.has id = true := by
  rw [has_eq_isSome, found]
  rfl

theorem count_place (w : World α) (id : EntityId) (e : Entity α) :
    (w.place id e).count = if w.has id then w.count else w.count + 1 :=
  Std.ExtTreeMap.size_insert

theorem ids_ascending (w : World α) : w.ids.Pairwise (· < ·) :=
  Std.ExtTreeMap.ordered_keys.imp Nat.compare_eq_lt.mp

/-- A world that keeps every entity under the entity's own number, and gives out no number that it
holds. -/
structure Numbered (w : World α) : Prop where
  own : ∀ {id e}, w.entity? id = some e → e.id = id
  below : ∀ {id}, w.has id = true → id < w.nextId

namespace Numbered

variable {w : World α}

theorem empty [Scalar α] : (World.empty : World α).Numbered where
  own found := by simp [World.empty, entity?] at found
  below there := by simp [World.empty, has] at there

theorem place (h : w.Numbered) {id : EntityId} {e : Entity α} (own : e.id = id)
    (there : w.has id = true) : (w.place id e).Numbered where
  own := by
    intro other e' found
    rcases found_of_place found with ⟨rfl, rfl⟩ | ⟨-, found⟩
    · exact own
    · exact h.own found
  below has := h.below ((has_place_of_has there _).mp has)

theorem spawn (h : w.Numbered) (build : EntityId → Entity α) : (w.spawn build).2.Numbered where
  own := by
    intro id e found
    rcases found_of_place found with ⟨rfl, rfl⟩ | ⟨-, found⟩
    · rfl
    · exact h.own found
  below := by
    intro id has
    change id < w.nextId + 1
    rcases has_place.mp has with rfl | there
    · exact Nat.lt_succ_self _
    · exact Nat.lt_succ_of_lt (h.below there)

theorem insert (h : w.Numbered) {e : Entity α} (room : e.id < maxCount) :
    (w.insert e).Numbered where
  own := by
    intro id e' found
    rcases found_of_place found with ⟨rfl, rfl⟩ | ⟨-, found⟩
    · rfl
    · exact h.own found
  below := by
    intro id has
    change id < max w.nextId (min (e.id + 1) maxCount)
    rcases has_place.mp has with rfl | there
    · have below : e.id < min (e.id + 1) maxCount := Nat.lt_min.mpr ⟨Nat.lt_succ_self _, room⟩
      exact Nat.lt_of_lt_of_le below (Nat.le_max_right ..)
    · exact Nat.lt_of_lt_of_le (h.below there) (Nat.le_max_left ..)

theorem remove (h : w.Numbered) (gone : EntityId) : (w.remove gone).Numbered where
  own := by
    intro id e found
    by_cases same : gone = id
    · subst same
      cases (w.entity?_remove gone).symm.trans found
    · exact h.own ((w.entity?_remove_of_ne same).symm.trans found)
  below := by
    intro id has
    rw [has_eq_isSome] at has
    by_cases same : gone = id
    · subst same
      rw [entity?_remove] at has
      cases has
    · rw [entity?_remove_of_ne _ same, ← has_eq_isSome] at has
      exact h.below has

theorem update (h : w.Numbered) (id : EntityId) {f : Entity α → Entity α}
    (own : ∀ e, (f e).id = e.id) : (w.update id f).Numbered := by
  unfold World.update
  split
  · exact h
  · next e found => exact h.place ((own e).trans (h.own found)) (has_of_entity? found)

theorem count_spawn (h : w.Numbered) (build : EntityId → Entity α) :
    (w.spawn build).2.count = w.count + 1 := by
  have new : ¬ w.has w.nextId = true := fun there => Nat.lt_irrefl _ (h.below there)
  refine (count_place ..).trans ?_
  exact if_neg new

end Numbered

end World

variable [Scalar α]

theorem Write.id_eq {v : Vocabulary} {bounds : Bounds α} {target : EntityId} {e e' : Entity α}
    {f : Report α → Report α} (h : Write v bounds target e e' f) : e'.id = e.id := by
  cases h <;> rfl

theorem Move.numbered {c : Cast α} {target : EntityId} {s s' : Execution α}
    (h : Move c target s s') (numbered : s.world.Numbered) : s'.world.Numbered := by
  cases h with
  | draw drawn =>
      rw [drawn.world]
      exact numbered
  | restore | wound | allot => exact numbered
  | spawn typeName itemId place =>
      exact numbered.spawn fun id => Cast.furnish place itemId { id := id, typeName := typeName }
  | emit event world room =>
      unfold World.emit? at room
      split at room
      · cases room
      · cases room
        exact { numbered with }
  | write found written =>
      exact numbered.place (written.id_eq.trans (numbered.own found)) (World.has_of_entity? found)

theorem Move.count {c : Cast α} {target : EntityId} {s s' : Execution α} (h : Move c target s s')
    (numbered : s.world.Numbered) :
    s'.world.count + s.report.spawnCount = s.world.count + s'.report.spawnCount := by
  cases h with
  | draw drawn => rw [drawn.world, drawn.report]
  | restore | wound | allot => rfl
  | spawn typeName itemId place =>
      have grown : (s.addEntity typeName itemId place).world.count = s.world.count + 1 :=
        numbered.count_spawn fun id => Cast.furnish place itemId { id := id, typeName := typeName }
      have counted : (s.addEntity typeName itemId place).report.spawnCount =
          s.report.spawnCount + 1 := rfl
      omega
  | emit event world room =>
      unfold World.emit? at room
      split at room
      · cases room
      · cases room
        rfl
  | write found written =>
      obtain ⟨changes, statuses, report⟩ := written.report_eq s.report
      rw [World.count_place, if_pos (World.has_of_entity? found), report]

end Grimoire
