import Grimoire.Proofs.World.Timed

/-! # Worlds in which everything lasts

A world is lasting when every expiry in it is later than the current tick. An action that gives expiries
later than now keeps it lasting, and so does a tick, which removes what expires.

`Mark.StandsIn` follows a record that an action left in an earlier world. The entity that holds it is
replaced only if its number is given out again, and then the record is gone.
-/

namespace Grimoire

variable {α : Type}

/-! ## Entities that are there and stay -/

namespace Entity

/-- An entity as an action leaves it: the target is treated, and no other one is. -/
structure Follows (action : Action α) (expiresAt : Option Nat) (isTarget : Prop) (e e' : Entity α) :
    Prop where
  target : isTarget → e.timed.Treated action expiresAt e'.timed
  other : ¬ isTarget → e'.timed = e.timed

end Entity

namespace World

/-- Everything in the world that has an end has it after the current tick. -/
structure Lasting (w : World α) : Prop where
  later : ∀ {id e}, w.entity? id = some e → ∀ {t}, e.timed.EndsAt t → w.tick < t

/-- The number was given out between the two worlds. -/
def GivesOut (w w' : World α) (id : EntityId) : Prop := w.nextId ≤ id ∧ id < w'.nextId

/-- What may happen to a world without any change of what has an end: entities may be added that have
none, in place of others if the next number is taken. -/
structure Grown (w w' : World α) : Prop where
  tick : w'.tick = w.tick
  nextId : w.nextId ≤ w'.nextId
  found : ∀ {id e'}, w'.entity? id = some e' → (∀ t, ¬ e'.timed.EndsAt t) ∨
    ∃ e, w.entity? id = some e ∧ e'.timed = e.timed
  kept : ∀ {id e}, w.entity? id = some e → ∃ e', w'.entity? id = some e' ∧
    (w.GivesOut w' id → e'.timed.IsBlank) ∧ (¬ w.GivesOut w' id → e'.timed = e.timed)

/-- What an action makes of a world when it treats an entity. -/
structure Treated (action : Action α) (expiresAt : Option Nat) (target : EntityId) (w w' : World α) :
    Prop where
  tick : w'.tick = w.tick
  nextId : w.nextId ≤ w'.nextId
  found : ∀ {id e'}, w'.entity? id = some e' → (∀ t, ¬ e'.timed.EndsAt t) ∨
    ∃ e, w.entity? id = some e ∧ e.Follows action expiresAt (id = target) e'
  kept : ∀ {id e}, w.entity? id = some e → ∃ e', w'.entity? id = some e' ∧
    (w.GivesOut w' id → e'.timed.IsBlank) ∧
    (¬ w.GivesOut w' id → e.Follows action expiresAt (id = target) e')

variable {w w₁ w' : World α} {target : EntityId} {action : Action α} {expiresAt : Option Nat}

/-! ## Numbers -/

theorem not_givesOut_of_eq (same : w'.nextId = w.nextId) (id : EntityId) : ¬ w.GivesOut w' id := by
  rintro ⟨after, before⟩
  rw [same] at before
  exact Nat.not_lt.mpr after before

theorem givesOut_iff (first : w.nextId ≤ w₁.nextId) (second : w₁.nextId ≤ w'.nextId) (id : EntityId) :
    w.GivesOut w' id ↔ w.GivesOut w₁ id ∨ w₁.GivesOut w' id := by
  constructor
  · rintro ⟨after, before⟩
    rcases Nat.lt_or_ge id w₁.nextId with early | late
    · exact .inl ⟨after, early⟩
    · exact .inr ⟨late, before⟩
  · rintro (⟨after, before⟩ | ⟨after, before⟩)
    · exact ⟨after, before.trans_le second⟩
    · exact ⟨first.trans after, before⟩

/-! ## Growing -/

namespace Grown

theorem of_eq (entities : w'.entities = w.entities) (nextId : w'.nextId = w.nextId)
    (tick : w'.tick = w.tick) : w.Grown w' := by
  have same (id : EntityId) : w'.entity? id = w.entity? id := by
    unfold entity?
    rw [entities]
  exact ⟨tick, nextId.ge, fun {_ e'} found => .inr ⟨e', same _ ▸ found, rfl⟩,
    fun {_ e} found => ⟨e, same _ ▸ found, fun given => absurd given (not_givesOut_of_eq nextId _),
      fun _ => rfl⟩⟩

theorem refl (w : World α) : w.Grown w := .of_eq rfl rfl rfl

theorem trans (h : w.Grown w₁) (h' : w₁.Grown w') : w.Grown w' where
  tick := h'.tick.trans h.tick
  nextId := h.nextId.trans h'.nextId
  found held := by
    rcases h'.found held with endless | ⟨e₁, held, same⟩
    · exact .inl endless
    · rcases h.found held with endless | ⟨e, held, same'⟩
      · rw [same]
        exact .inl endless
      · exact .inr ⟨e, held, same.trans same'⟩
  kept {id e} held := by
    obtain ⟨e₁, held, blank, same⟩ := h.kept held
    obtain ⟨e', held, blank', same'⟩ := h'.kept held
    rw [givesOut_iff h.nextId h'.nextId]
    refine ⟨e', held, fun given => ?_, fun kept => ?_⟩
    · by_cases recent : w₁.GivesOut w' id
      · exact blank' recent
      · rw [same' recent]
        exact blank (given.resolve_right recent)
    · rw [not_or] at kept
      exact (same' kept.2).trans (same kept.1)

/-- An entity may be replaced by one that has all that can end from it. -/
theorem replace {e e' : Entity α} (there : w.entity? target = some e) (same : e'.timed = e.timed) :
    w.Grown (w.place target e') where
  tick := rfl
  nextId := Nat.le_refl _
  found {id e₁} held := by
    rcases found_of_place held with ⟨rfl, rfl⟩ | ⟨-, held⟩
    · exact .inr ⟨e, there, same⟩
    · exact .inr ⟨e₁, held, rfl⟩
  kept {id e₁} held := by
    rcases kept_by_place target e' held with ⟨rfl, placed⟩ | ⟨-, still⟩
    · cases there.symm.trans held
      exact ⟨e', placed, fun given => absurd given (not_givesOut_of_eq rfl _), fun _ => same⟩
    · exact ⟨e₁, still, fun given => absurd given (not_givesOut_of_eq rfl _), fun _ => rfl⟩

theorem spawn (build : EntityId → Entity α) (blank : (build w.nextId).timed.IsBlank) :
    w.Grown (w.spawn build).2 where
  tick := rfl
  nextId := Nat.le_succ _
  found {id e'} held := by
    rcases found_of_place held with ⟨rfl, rfl⟩ | ⟨-, held⟩
    · exact .inl blank.not_endsAt
    · exact .inr ⟨e', held, rfl⟩
  kept {id e} held := by
    by_cases next : w.nextId = id
    · subst next
      refine ⟨_, entity?_spawn w build, fun _ => blank, fun kept => ?_⟩
      exact absurd ⟨Nat.le_refl _, Nat.lt_succ_self _⟩ kept
    · refine ⟨e, (entity?_spawn_of_ne _ _ next).trans held, ?_, fun _ => rfl⟩
      rintro ⟨after, before⟩
      exact absurd (Nat.le_antisymm after (Nat.lt_succ_iff.mp before)) next

theorem emit {event : Event α} (room : w.emit? event = some w') : w.Grown w' := by
  unfold World.emit? at room
  split at room
  · cases room
  · cases room
    exact .of_eq rfl rfl rfl

theorem treated (h : w.Grown w')
    (other : ∀ toType duration, action ≠ .transformEntity toType duration) :
    w.Treated action expiresAt target w' := by
  have follows {id : EntityId} {e e' : Entity α} (same : e'.timed = e.timed) :
      e.Follows action expiresAt (id = target) e' :=
    ⟨fun _ => by rw [same]; exact .alike e.timed other, fun _ => same⟩
  exact ⟨h.tick, h.nextId,
    fun held => (h.found held).imp_right fun ⟨e, held, same⟩ => ⟨e, held, follows same⟩,
    fun held => (h.kept held).imp fun _ ⟨held, blank, same⟩ =>
      ⟨held, blank, fun kept => follows (same kept)⟩⟩

theorem lasting (h : w.Grown w') (lasting : w.Lasting) : w'.Lasting where
  later {_ e'} held {t} ends := by
    rw [h.tick]
    rcases h.found held with endless | ⟨e, held, same⟩
    · exact absurd ends (endless t)
    · exact lasting.later held (same ▸ ends)

end Grown

/-! ## Treating -/

namespace Treated

theorem absent (nobody : w.entity? target = none) : w.Treated action expiresAt target w := by
  have follows {id : EntityId} {e : Entity α} (held : w.entity? id = some e) :
      e.Follows action expiresAt (id = target) e := by
    refine ⟨fun same => ?_, fun _ => rfl⟩
    subst same
    cases nobody.symm.trans held
  exact ⟨rfl, Nat.le_refl _, fun held => .inr ⟨_, held, follows held⟩,
    fun held => ⟨_, held, fun given => absurd given (not_givesOut_of_eq rfl _), fun _ => follows held⟩⟩

theorem replace {e e' : Entity α} (there : w.entity? target = some e)
    (treated : e.timed.Treated action expiresAt e'.timed) :
    w.Treated action expiresAt target (w.place target e') where
  tick := rfl
  nextId := Nat.le_refl _
  found {id e₁} held := by
    rcases found_of_place held with ⟨rfl, rfl⟩ | ⟨here, held⟩
    · exact .inr ⟨e, there, fun _ => treated, fun other => absurd rfl other⟩
    · exact .inr ⟨e₁, held, fun same => absurd same.symm here, fun _ => rfl⟩
  kept {id e₁} held := by
    rcases kept_by_place target e' held with ⟨rfl, placed⟩ | ⟨here, still⟩
    · cases there.symm.trans held
      exact ⟨e', placed, fun given => absurd given (not_givesOut_of_eq rfl _),
        fun _ => ⟨fun _ => treated, fun other => absurd rfl other⟩⟩
    · exact ⟨e₁, still, fun given => absurd given (not_givesOut_of_eq rfl _),
        fun _ => ⟨fun same => absurd same.symm here, fun _ => rfl⟩⟩

theorem lasting (h : w.Treated action expiresAt target w') (lasting : w.Lasting)
    (ahead : ∀ t, expiresAt = some t → w.tick < t) : w'.Lasting where
  later {id e'} held {t} ends := by
    rw [h.tick]
    rcases h.found held with endless | ⟨e, held, follows⟩
    · exact absurd ends (endless t)
    · by_cases here : id = target
      · rcases (follows.target here).endsAt ends with old | new
        · exact lasting.later held old
        · exact ahead t new
      · exact lasting.later held (follows.other here ▸ ends)

end Treated

/-! ## Ticks -/

/-- After a tick, whatever has an expiry has it later. -/
theorem lasting_advance [Quantity α] (w : World α) : w.advance.2.Lasting where
  later {_ _} held {t} ends := by
    rw [entity?_advance] at held
    obtain ⟨e, there, rfl⟩ := Option.map_eq_some_iff.mp held
    rw [e.timed_lapse] at ends
    exact ends.of_lapse.2

theorem has_advance [Quantity α] (w : World α) (id : EntityId) : w.advance.2.has id = w.has id := by
  rw [has_eq_isSome, has_eq_isSome, entity?_advance, Option.isSome_map]

theorem Numbered.advance [Quantity α] (numbered : w.Numbered) : w.advance.2.Numbered where
  own held := by
    rw [entity?_advance] at held
    obtain ⟨e, there, rfl⟩ := Option.map_eq_some_iff.mp held
    exact (e.lapse_id _).trans (numbered.own there)
  below there := numbered.below ((has_advance ..).symm.trans there)

end World

/-! ## Marks in worlds -/

/-- A mark left in `w₀` stands in `w`, or is gone if the number of its entity was given out in between. -/
structure Mark.StandsIn (mark : Mark α) (target : EntityId) (w₀ w : World α) : Prop where
  nextId : w₀.nextId ≤ w.nextId
  stands : ∃ e, w.entity? target = some e ∧ (w₀.GivesOut w target → mark.Gone w.tick e.timed) ∧
    (¬ w₀.GivesOut w target → mark.Stands w.tick e.timed)

namespace Mark.StandsIn

variable {mark : Mark α} {target other : EntityId} {w₀ w w' : World α} {action : Action α}
  {expiresAt : Option Nat}

theorem onward (h : mark.StandsIn target w₀ w) (tick : w'.tick = w.tick)
    (nextId : w.nextId ≤ w'.nextId)
    (kept : ∀ {e}, w.entity? target = some e → ∃ e', w'.entity? target = some e' ∧
      (w.GivesOut w' target → e'.timed.IsBlank) ∧
      (¬ w.GivesOut w' target → (mark.Gone w.tick e.timed → mark.Gone w.tick e'.timed) ∧
        (mark.Stands w.tick e.timed → mark.Stands w.tick e'.timed))) :
    mark.StandsIn target w₀ w' := by
  obtain ⟨first, e, held, gone, stands⟩ := h
  obtain ⟨e', held, blank, same⟩ := kept held
  refine ⟨first.trans nextId, e', held, ?_⟩
  rw [World.givesOut_iff first nextId, tick, not_or]
  refine ⟨fun given => ?_, fun still => (same still.2).2 (stands still.1)⟩
  by_cases recent : w.GivesOut w' target
  · exact .of_isBlank (blank recent)
  · exact (same recent).1 (gone (given.resolve_right recent))

theorem grown (h : mark.StandsIn target w₀ w) (grown : w.Grown w') : mark.StandsIn target w₀ w' := by
  refine h.onward grown.tick grown.nextId fun held => ?_
  obtain ⟨e', held, blank, same⟩ := grown.kept held
  refine ⟨e', held, blank, fun still => ?_⟩
  rw [same still]
  exact ⟨id, id⟩

theorem treated (h : mark.StandsIn target w₀ w) (treated : w.Treated action expiresAt other w')
    (apart : ¬ (other = target ∧ mark.Meddles action))
    (ahead : ∀ t, expiresAt = some t → w.tick < t) : mark.StandsIn target w₀ w' := by
  refine h.onward treated.tick treated.nextId fun held => ?_
  obtain ⟨e', held, blank, follows⟩ := treated.kept held
  refine ⟨e', held, blank, fun still => ?_⟩
  by_cases here : target = other
  · have touched := (follows still).target here
    have spared : ¬ mark.Meddles action := fun meddles => apart ⟨here.symm, meddles⟩
    exact ⟨fun gone => gone.treated touched spared ahead, fun stands => stands.treated touched spared ahead⟩
  · rw [(follows still).other here]
    exact ⟨id, id⟩

theorem advance [Quantity α] (h : mark.StandsIn target w₀ w) : mark.StandsIn target w₀ w.advance.2 := by
  obtain ⟨first, e, held, gone, stands⟩ := h
  refine ⟨first, e.lapse (w.tick + 1), by rw [World.entity?_advance, held]; rfl, ?_⟩
  rw [e.timed_lapse]
  exact ⟨fun given => (gone given).lapse, fun kept => (stands kept).lapse⟩

end Mark.StandsIn

end Grimoire
