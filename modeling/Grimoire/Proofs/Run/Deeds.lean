import Grimoire.Proofs.Run.Timed
import Grimoire.Proofs.World.Character

/-! # Actions as deeds

Three kinds of actions do something to the character of their target: those that change or set a stat,
other than the pool and its maximum, and those that transform.  What they do is a deed, and it depends on
the numbers that their parameters come to.  All other actions leave every character alone, and so do
actions on the pool.
-/

namespace Grimoire

open Run

variable {α : Type} [Scalar α]

namespace Cast

/-- Evaluates what an action is going to do to the character of its target. -/
def deed (c : Cast α) (target : EntityId) : Action α → Run α (Option (Deed α))
  | .modifyStat stat amount duration => do
    let amount ← c.evalNumber target amount
    let expiresAt ← c.expiry target "modify_stat.duration" duration
    pure (if Entity.IsPool stat then none else some (.change stat amount expiresAt))
  | .setStat stat value => do
    let value ← c.evalNumber target value
    pure (if Entity.IsPool stat then none else some (.set stat value))
  | .transformEntity toType duration => do
    let expiresAt ← c.expiry target "transform_entity.duration" duration
    pure (some (.transform toType expiresAt))
  | _ => pure none

/-- What an action does to the character of its target in a state, if it does anything to it and does not
fail before. -/
def deed? (c : Cast α) (target : EntityId) (action : Action α) (s : Execution α) :
    Option (Deed α) :=
  match c.deed target action s with
  | .ok d _ => d
  | .error .. => none

variable {c : Cast α} {target : EntityId} {action : Action α} {s s₁ s' : Execution α}

theorem deed?_of_ok {d : Option (Deed α)} (known : c.deed target action s = .ok d s') :
    c.deed? target action s = d := by
  unfold deed?
  rw [known]

theorem expiresAt_of_deed? {d : Deed α} (asked : c.deed? target action s = some d) :
    (∀ x, c.duration? target action s = some x → ¬ x < 0) ∧
      d.expiresAt? = c.endOf (c.duration? target action s) := by
  unfold deed? at asked
  split at asked
  · next known =>
      subst asked
      cases action with
      | modifyStat stat amount duration =>
          obtain ⟨x, s₁, evaluated, known⟩ := ok_of_bind known
          obtain ⟨expiresAt, s₂, expires, known⟩ := ok_of_bind known
          have ends := ends_of_expiry (.modifyStat stat amount duration) expires
            (fun absent => by subst absent; rfl) fun given evaluated' => by
              subst given
              exact duration?_of_ok ((bind_ok evaluated).trans (bind_ok evaluated'))
          split at known
          · cases known
          · cases known
            exact ends
      | setStat stat value =>
          obtain ⟨x, s₁, -, known⟩ := ok_of_bind known
          split at known
          · cases known
          · cases known
            exact ⟨nofun, rfl⟩
      | transformEntity toType duration =>
          obtain ⟨expiresAt, s₁, expires, known⟩ := ok_of_bind known
          cases known
          exact ends_of_expiry (.transformEntity toType duration) expires
            (fun absent => by subst absent; rfl) fun given evaluated => by
              subst given
              exact duration?_of_ok (bind_ok evaluated)
      | _ => cases known
  · cases asked

/-! ## What leaves all characters alone -/

/-- The shape of what is shown of everything that does nothing to a character. -/
abbrev Spares {β : Type} (target : EntityId) (m : Run α β) (s : Execution α) : Prop :=
  m.Atomic False (fun _ s₁ s' => s₁.world.Does none target s'.world) s

theorem isOutward_does (target : EntityId) :
    World.IsOutward (World.Does (none : Option (Deed α)) target) where
  refl := .refl
  trans := .trans
  move {w id e} goal found := .write found (e.character_put_of_ne .position goal (by simp))
  remake {w id e} material found := .write found (e.character_put_of_ne .material material (by simp))
  spawn w typeName itemId place :=
    .spawn w fun id => furnish place itemId { id := id, typeName := typeName }
  emit := .emit

theorem isVital_does (target : EntityId) :
    World.IsVital (World.Does (none : Option (Deed α)) target) where
  refl := .refl
  pool {w id e h h'} found _ _ := .write found (e.character_put_of_ne .health h' (by simp))

theorem does_changeMaximum (expiresAt : Option Nat) (f : Health α → Health α) :
    Spares target (changeMaximum target expiresAt f) s :=
  .onSlot (.refl _) fun e _ found _ => .of_eq rfl
    (.write found (e.character_put_of_ne .health _ (by simp)))

/-! ## Deeds -/

/-- The shape of what is shown of an action, evaluated from an earlier state: it does its deed. -/
abbrev DoesDeed {β : Type} (c : Cast α) (target : EntityId) (action : Action α) (s : Execution α)
    (m : Run α β) (s₁ : Execution α) : Prop :=
  m.Atomic False
    (fun _ s₁ s' => s₁.world.Does (c.deed? target action s) target s'.world) s₁

theorem does_onEntity {d : Deed α} {m : Entity α → Run α Unit}
    (asked : c.deed? target action s = some d)
    (written : ∀ e, ∃ f, m e = Run.commit target (e.does d) f) :
    c.DoesDeed target action s (Run.onEntity target m) s₁ := by
  cases found : s₁.world.entity? target with
  | none => exact .of_eq (onEntity_none found) (.absent found)
  | some e =>
      obtain ⟨f, write⟩ := written e
      refine .of_eq ((onEntity_some found).trans (congrFun write s₁)) (.replace found ?_)
      rw [asked]
      exact .deed d e

/-- What is done to a stat goes to the pool, to its maximum or to the stats, and is a deed if it goes to
the stats. -/
theorem does_byStat {d : Deed α} {stat : String} {m m' : Run α Unit} {f : Entity α → Run α Unit}
    (asked : c.deed? target action s = if Entity.IsPool stat then none else some d)
    (pool : Spares target m s₁) (maximum : Spares target m' s₁)
    (written : ∀ e, ∃ record, f e = Run.commit target (e.does d) record) :
    c.DoesDeed target action s
      (if stat = "health" then m else if stat = "maxHealth" then m' else Run.onEntity target f) s₁ := by
  unfold DoesDeed
  by_cases here : stat = "health"
  · rw [if_pos (.inl here)] at asked
    rw [if_pos here, asked]
    exact pool
  · rw [if_neg here]
    by_cases there : stat = "maxHealth"
    · rw [if_pos (.inr there)] at asked
      rw [if_pos there, asked]
      exact maximum
    · rw [if_neg (Entity.not_isPool here there)] at asked
      rw [if_neg there]
      exact does_onEntity asked written

theorem does_modifyStat (stat : String) (amount : Expr α) (duration : Option (Expr α)) :
    c.DoesDeed target (.modifyStat stat amount duration) s
      (c.modifyStat target stat amount duration) s := by
  refine .bind (.checked (Vocabulary.plain_checkStat _) False.elim) fun {_ s} named => ?_
  obtain ⟨-, rfl⟩ := check_ok named
  refine .bind (reads_evalNumber amount) fun {x _} evaluated => ?_
  refine .bind (reads_expiry ..) fun {expiresAt _} expires => ?_
  have asked : c.deed? target (.modifyStat stat amount duration) s =
      if Entity.IsPool stat then none else some (.change stat x expiresAt) :=
    deed?_of_ok ((bind_ok evaluated).trans (bind_ok expires))
  refine does_byStat asked ?_ (does_changeMaximum ..) fun e => ⟨_, rfl⟩
  split
  · exact .throw ⟨rfl, fun _ => rfl⟩
  · exact (isVital_does target).setHealth

theorem does_setStat (stat : String) (value : Expr α) :
    c.DoesDeed target (.setStat stat value) s (c.setStat target stat value) s := by
  refine .bind (.checked (Vocabulary.plain_checkStat _) False.elim) fun {_ s} named => ?_
  obtain ⟨-, rfl⟩ := check_ok named
  refine .bind (reads_evalNumber value) fun {x _} evaluated => ?_
  have asked : c.deed? target (.setStat stat value) s =
      if Entity.IsPool stat then none else some (.set stat x) :=
    deed?_of_ok (bind_ok evaluated)
  exact does_byStat asked (isVital_does target).setHealth (does_changeMaximum ..) fun e => ⟨_, rfl⟩

theorem does_transformEntity (toType : String) (duration : Option (Expr α)) :
    c.DoesDeed target (.transformEntity toType duration) s
      (c.transformEntity target toType duration) s := by
  refine .bind (.checked (Vocabulary.plain_checkEntityType ..) False.elim) fun {_ s} named => ?_
  obtain ⟨-, rfl⟩ := check_ok named
  refine .bind (reads_expiry ..) fun {expiresAt _} expires => ?_
  have asked : c.deed? target (.transformEntity toType duration) s =
      some (.transform toType expiresAt) :=
    deed?_of_ok (bind_ok expires)
  exact does_onEntity asked fun e => ⟨_, rfl⟩

theorem does_perform (c : Cast α) (target : EntityId) (action : Action α) (s : Execution α) :
    c.DoesDeed target action s (c.perform target action) s := by
  cases action with
  | modifyStat => exact does_modifyStat ..
  | setStat => exact does_setStat ..
  | transformEntity => exact does_transformEntity ..
  | dealDamage damageType amount => exact (isVital_does target).dealDamage damageType amount
  | heal amount => exact (isVital_does target).heal amount
  | applyStatus status duration count =>
      refine .bind (.checked (Vocabulary.plain_checkStatus ..) False.elim) fun _ => ?_
      refine .bind (reads_evalCount ..) fun _ => .bind (reads_expiry ..) fun _ => ?_
      split
      · exact .pure (.refl _)
      · refine .onEntity (.refl _) fun e found => .of_eq rfl ?_
        exact .write found (e.character_put_of_ne .statuses _ (by simp))
  | removeStatus status count =>
      refine .bind (.checked (Vocabulary.plain_checkStatus ..) False.elim) fun _ => ?_
      refine .bind (reads_evalStacks count) fun _ => ?_
      split
      · exact .pure (.refl _)
      · refine .onSlot (.refl _) fun e table found held => .of_eq rfl ?_
        exact .write found (e.character_put_of_ne .statuses _ (by simp))
  | teleport | push | pull | spawnEntity | spawnItem | transformMaterial | emitEvent =>
      exact (isOutward_does target).perform trivial

end Cast

/-! ## What is recorded -/

/-- Whether a change is one of a stat that is not read from the pool. -/
def Change.isStat : Change α → Bool
  | stat .. => true
  | _ => false

def Report.statChanges (r : Report α) : List (Change α) := r.changes.toList.filter Change.isStat

omit [Scalar α] in
theorem Report.statChanges_change (r : Report α) (c : Change α) :
    (r.change c).statChanges = r.statChanges ++ [c].filter Change.isStat := by
  simp [statChanges, change, List.filter_append]

/-- Whether a change says what a stat of an entity is in a world, and what it is in the next one, where a
deed has been done to it. -/
inductive Change.Tells (w w' : World α) : Change α → Prop where
  | deed {id e d stat} (about : d.stat? = some stat) (pool : ¬ Entity.IsPool stat)
      (before : w.entity? id = some e) (after : w'.entity? id = some (e.does d)) :
      Tells w w' (.stat id stat (e.statValue stat) ((e.does d).statValue stat) d.expiresAt?)

/-- What one step adds to the changes of stats in a report: nothing, or one change that tells of it. -/
inductive Execution.RecordsStat (s s' : Execution α) : Prop where
  | nothing (same : s'.report.statChanges = s.report.statChanges)
  | change {change} (tells : Change.Tells s.world s'.world change)
      (recorded : s'.report.statChanges = s.report.statChanges ++ [change])

namespace Execution.RecordsStat

variable {c : Cast α} {target : EntityId} {s s₁ s' : Execution α}

theorem of_statChanges (h : s₁.RecordsStat s') (world : s₁.world = s.world)
    (changes : s₁.report.statChanges = s.report.statChanges) : s.RecordsStat s' := by
  cases h with
  | nothing same => exact .nothing (same.trans changes)
  | change tells recorded => exact .change (world ▸ tells) (changes ▸ recorded)

omit [Scalar α] in
theorem spawns {typeName : String} {itemId : Option String} {place : Position α} {n : Nat}
    (spawned : Run.times n (Cast.spawnOne typeName itemId place) s = .ok () s') :
    s'.report.statChanges = s.report.statChanges := by
  induction n generalizing s with
  | zero =>
      cases spawned
      rfl
  | succ n ih =>
      have first : (s.addEntity typeName itemId place).report.statChanges = s.report.statChanges := by
        simp [Report.statChanges, Execution.addEntity, Change.isStat]
      exact (ih spawned).trans first

theorem write [Quantity.Neutral α] {v : Vocabulary} {bounds : Bounds α} {e e' : Entity α}
    {f : Report α → Report α} (found : s.world.entity? target = some e)
    (written : Write v bounds target e e' f) :
    s.RecordsStat { s with world := s.world.place target e', report := f s.report } := by
  have unrecorded (c : Change α) (same : c.isStat = false) :
      (s.report.change c).statChanges = s.report.statChanges := by
    rw [Report.statChanges_change, List.filter_singleton, same]
    exact List.append_nil _
  cases written with
  | changeStat stat amount expiresAt known pool maximum =>
      have plain := Entity.not_isPool pool maximum
      refine .change (.deed (d := .change stat amount expiresAt) rfl plain found
        (World.entity?_place ..)) ?_
      rw [Entity.statValue_eq _ plain, Entity.statValue_eq _ plain]
      simp only [Entity.does, Entity.statBlock_put]
      exact Report.statChanges_change _ _
  | setStat stat value known pool maximum =>
      have plain := Entity.not_isPool pool maximum
      refine .change (.deed (d := .set stat value) rfl plain found (World.entity?_place ..)) ?_
      rw [Entity.statValue_eq _ plain, Entity.statValue_eq _ plain]
      simp only [Entity.does, Entity.statBlock_put, StatBlock.effective_setBase]
      exact Report.statChanges_change _ _
  | removeStatus =>
      refine .nothing ?_
      dsimp only
      split
      · rfl
      · exact unrecorded _ rfl
  | applyStatus => exact .nothing rfl
  | _ => exact .nothing (unrecorded _ rfl)

theorem touch [Quantity.Neutral α] (h : Touch c.settings.vocabulary target s s') :
    s.RecordsStat s' := by
  cases h with
  | nothing => exact .nothing rfl
  | write found written => exact write found written

theorem stroke [Quantity.Neutral α] {demand : Option (Demand α)} (h : Stroke c target demand s s') :
    s.RecordsStat s' := by
  cases h with
  | touch touched => exact touch touched
  | restore amount touched => exact (touch touched).of_statChanges rfl rfl
  | emit => exact .nothing rfl
  | wound requested touched => exact (touch touched).of_statChanges rfl rfl
  | spawn typeName itemId place requested inside known spawned =>
      exact .nothing ((spawns spawned).trans rfl)

end Execution.RecordsStat

end Grimoire
