import Grimoire.Proofs.Run.Strikes

/-! # Outward actions

An action is outward if it neither hurts nor changes an entity: it moves it, changes what it is made of,
adds others to the world, or tells the outside something.  Whatever relation between worlds is kept by
each single one of these is kept by an outward action.

Likewise an action is vital if it hurts or heals.  It gives a pool another current value, and a relation
that is kept by that is kept by a vital action, and whenever current health is set.
-/

namespace Grimoire

open Run

variable {α : Type} [Scalar α]

/-- Whether an action does no more to an entity than to move it or change what it is made of. -/
def Action.IsOutward {α : Type} : Action α → Prop
  | teleport .. | push .. | pull .. | spawnEntity .. | spawnItem .. | transformMaterial ..
  | emitEvent .. => True
  | dealDamage .. | heal .. | applyStatus .. | removeStatus .. | modifyStat .. | setStat ..
  | transformEntity .. => False

/-- A relation between a world and a later one that holds whatever outward actions do in between. -/
structure World.IsOutward (R : World α → World α → Prop) : Prop where
  refl : ∀ w, R w w
  trans : ∀ {w w₁ w'}, R w w₁ → R w₁ w' → R w w'
  move : ∀ {w id e} (goal : Position α), w.entity? id = some e →
    R w (w.place id (e.put .position goal))
  remake : ∀ {w id e} (material : String), w.entity? id = some e →
    R w (w.place id (e.put .material material))
  spawn : ∀ (w : World α) (typeName : String) (itemId : Option String) (place : Position α),
    R w (w.spawn fun id => Cast.furnish place itemId { id := id, typeName := typeName }).2
  emit : ∀ {w w' : World α} {event : Event α}, w.emit? event = some w' → R w w'

namespace World.IsOutward

variable {R : World α → World α → Prop} {c : Cast α} {target : EntityId} {s : Execution α}

theorem moveTo (h : IsOutward R) (operation : String) (goal : Position α) :
    (Cast.moveTo target operation goal).Atomic False (fun _ s₁ s' => R s₁.world s'.world) s :=
  .bind (Cast.reads_checkBounds ..) fun _ => .onEntity (h.refl _) fun _ found =>
    .of_eq rfl (h.move goal found)

omit [Scalar α] in
theorem spawns (h : IsOutward R) {typeName : String} {itemId : Option String} {place : Position α}
    {n : Nat} {s' : Execution α}
    (spawned : Run.times n (Cast.spawnOne typeName itemId place) s = .ok () s') :
    R s.world s'.world := by
  induction n generalizing s with
  | zero =>
      cases spawned
      exact h.refl _
  | succ n ih =>
      have added : R s.world (s.addEntity typeName itemId place).world :=
        h.spawn s.world typeName itemId place
      exact h.trans added (ih spawned)

theorem spawnMany (h : IsOutward R) (typeName : String) (itemId : Option String) (count : Expr α)
    (place : Option (Coordinates α)) :
    (c.spawn target typeName itemId count place).Atomic False
      (fun _ s₁ s' => R s₁.world s'.world) s := by
  rw [Cast.spawn_eq]
  refine .bind (Cast.reads_spawnOrder count place) fun {order s₁} _ => ?_
  obtain ⟨s', spawned⟩ := Cast.times_spawnOne_ok typeName itemId order.2
    (s₁.governor.spawnsLeft c.settings.limits order.1)
    (s₁.grantSpawns c.settings.limits target order.1)
  have kept := h.spawns spawned
  exact .of_eq ((bind_ok (Cast.allotSpawns_eq order.1)).trans spawned) kept

omit [Scalar α] in
theorem tell (h : IsOutward R) (event : Event α) :
    (Cast.emit event).Atomic False (fun _ s₁ s' => R s₁.world s'.world) s := by
  refine .get_bind ?_
  split
  · exact .throw ⟨rfl, fun _ => rfl⟩
  · next world room => exact .of_eq rfl (h.emit room)

theorem perform (h : IsOutward R) {action : Action α} (outward : action.IsOutward) :
    (c.perform target action).Atomic False (fun _ s₁ s' => R s₁.world s'.world) s := by
  cases action with
  | dealDamage | heal | applyStatus | removeStatus | modifyStat | setStat | transformEntity =>
      exact outward.elim
  | teleport destination =>
      exact .bind (Cast.reads_evalPoint destination) fun _ => h.moveTo ..
  | push direction distance =>
      refine .bind (Cast.reads_evalNumber distance) fun _ => .get_bind ?_
      split
      · exact .pure (h.refl _)
      · exact .bind (Cast.reads_pushDirection ..) fun _ => h.moveTo ..
  | pull toward distance =>
      refine .bind (Cast.reads_evalNumber distance) fun _ => .get_bind ?_
      split
      · exact .pure (h.refl _)
      · refine .bind (Cast.reads_pullAnchor toward) fun _ => ?_
        dsimp only
        split
        · exact .pure (h.refl _)
        · exact h.moveTo ..
  | spawnEntity =>
      exact .bind (.checked (Vocabulary.plain_checkEntityType ..) False.elim) fun _ =>
        h.spawnMany ..
  | spawnItem =>
      exact .bind (.checked (Vocabulary.plain_checkItem ..) False.elim) fun _ => h.spawnMany ..
  | transformMaterial source result =>
      refine .bind (.checked (Vocabulary.plain_checkMaterial ..) False.elim) fun _ => ?_
      refine .bind (.checked (Vocabulary.plain_checkMaterial ..) False.elim) fun _ => ?_
      refine .onEntity (h.refl _) fun e found => ?_
      split
      · exact .of_eq rfl (h.remake result found)
      · exact .pure (h.refl _)
  | emitEvent eventType payload =>
      refine .bind (.checked (Vocabulary.plain_checkIdentifier ..) False.elim) fun _ => ?_
      exact .bind (Cast.reads_evalPayload _ False.elim) fun _ => h.tell _

end World.IsOutward

/-! ## Vital actions -/

/-- A relation between a world and a later one that holds whatever current value a pool is given. -/
structure World.IsVital (R : World α → World α → Prop) : Prop where
  refl : ∀ w, R w w
  pool : ∀ {w id e h h'}, w.entity? id = some e → e.get? .health = some h → h'.boosts = h.boosts →
    R w (w.place id (e.put .health h'))

namespace World.IsVital

variable {R : World α → World α → Prop} {c : Cast α} {target : EntityId} {s : Execution α}

omit [Scalar α] in
theorem changeHealth [Quantity α] (h : IsVital R) {f : Health α → Health α}
    (same : ∀ x, (f x).boosts = x.boosts) (target : EntityId) (s : Execution α) :
    ∃ s', Cast.changeHealth target f s = .ok () s' ∧ R s.world s'.world :=
  Cast.changeHealth_ok target f s (h.refl _) fun _ x found held => h.pool found held (same x)

theorem restore (h : IsVital R) (amount : α) :
    (Cast.restore target amount).Atomic False (fun _ s₁ s' => R s₁.world s'.world) s := by
  obtain ⟨s', changed, kept⟩ := h.changeHealth (f := (·.heal amount)) (fun _ => rfl) target
    (s.countHealing amount)
  exact .of_eq changed kept

theorem wound (h : IsVital R) (requested : α) :
    (c.wound target requested).Atomic False (fun _ s₁ s' => R s₁.world s'.world) s := by
  obtain ⟨s', changed, kept⟩ := h.changeHealth
    (f := (·.damage (s.governor.damageLeft c.settings.limits requested))) (fun _ => rfl) target
    (s.grantDamage c.settings.limits target requested)
  exact .of_eq ((bind_ok (Cast.allotDamage_eq requested)).trans changed) kept

theorem dealDamage (h : IsVital R) (damageType : String) (amount : Expr α) :
    (c.dealDamage target damageType amount).Atomic False
      (fun _ s₁ s' => R s₁.world s'.world) s := by
  refine .bind (.checked (Vocabulary.plain_checkDamageType ..) False.elim) fun _ => ?_
  refine .bind (Cast.reads_evalNumber amount) fun _ => ?_
  split
  · exact h.restore _
  · exact h.wound _

theorem heal (h : IsVital R) (amount : Expr α) :
    (c.heal target amount).Atomic False (fun _ s₁ s' => R s₁.world s'.world) s := by
  refine .bind (Cast.reads_evalNumber amount) fun _ => ?_
  split
  · exact .throw ⟨rfl, fun _ => rfl⟩
  · exact h.restore _

theorem setHealth (h : IsVital R) {value : Health α → α} :
    (Cast.setHealth target value).Atomic False (fun _ s₁ s' => R s₁.world s'.world) s := by
  refine .onSlot (h.refl _) fun e x found held => ?_
  split
  · exact .throw ⟨rfl, fun _ => rfl⟩
  · next x' set =>
      refine .of_eq rfl (h.pool found held ?_)
      unfold Health.setCurrent? at set
      obtain ⟨current, -, rfl⟩ := Option.map_eq_some_iff.mp set
      rfl

end World.IsVital

end Grimoire
