import Grimoire.Proofs.Expression.Safety
import Grimoire.Proofs.Run.Literal
import Grimoire.Proofs.Run.Outward
import Grimoire.Proofs.World.Health

/-! # Actions and the bounds of pools

An action keeps every pool of the world within its bounds, if the numbers that it evaluates are finite.
Only four kinds of actions change pools: damage, healing, and the two that change stats.  Of the others
it is enough that what they write is no pool.

Where all pools are within their bounds, setting a pool cannot meet a maximum below zero.
-/

namespace Grimoire

open Run

variable {α : Type} [Scalar α]

/-- The number that a pool or a stat is changed by, or set to. -/
def Action.amount? : Action α → Option (Expr α)
  | .dealDamage _ amount | .heal amount | .modifyStat _ amount _ | .setStat _ amount => some amount
  | _ => none

/-- Whether what an action evaluates in a state for a pool or a stat, if it is a number, is finite. -/
def Cast.EvaluatesFinite (c : Cast α) (target : EntityId) (action : Action α) (s : Execution α) :
    Prop :=
  ∀ amount, action.amount? = some amount →
    ∀ x s', c.evalNumber target amount s = .ok x s' → Scalar.isFinite x = true

/-- Whether pools that are within their bounds in a state are so in another one. -/
def Execution.KeepsHealth (s s' : Execution α) : Prop :=
  s.world.HealthBounded → s'.world.HealthBounded

theorem Governor.damageLeft_nonneg [Quantity.Rounded α] (g : Governor α) (limits : Limits α)
    {requested : α} (nonneg : 0 ≤ requested) : 0 ≤ g.damageLeft limits requested := by
  unfold damageLeft
  cases limits.damage with
  | none => exact nonneg
  | some most =>
      exact Quantity.Rounded.min_nonneg nonneg (Quantity.Ordered.zero_le_positivePart _)

/-- Whether an expression reads something in a world that is no number. -/
def Cast.ReadsNaN (c : Cast α) (target : EntityId) (w : World α) (e : Expr α) : Prop :=
  ∃ p ∈ e.paths, ∃ x, (⟨w, c.caster, some target⟩ : Bindings α).Shows p x ∧ Quantity.isNaN x = true

/-- Whether a fault, if it says that bounds were out of order, has a reason. -/
def Fault.BreaksOnlyIf (reason : Prop) (fault : Fault) : Prop := fault = .brokenBounds → reason

namespace Cast

variable {c : Cast α} {target : EntityId} {s : Execution α}

/-- The shape of what is shown of every action: it reads, and what it does keeps pools within their
bounds. -/
abbrev Keeps {β : Type} (m : Run α β) (s : Execution α) : Prop :=
  m.Atomic False (fun _ => Execution.KeepsHealth) s

/-! ## What writes no pool -/

theorem keeps_commit {e e' : Entity α} {f : Report α → Report α}
    (found : s.world.entity? target = some e) (fits : e.HealthBounded → e'.HealthBounded) :
    Keeps (Run.commit target e' f) s :=
  .of_eq rfl fun bounded => bounded.place (fits (bounded target e found))

theorem healthBounded_furnish (place : Position α) (itemId : Option String) (id : EntityId)
    (typeName : String) :
    (furnish place itemId { id := id, typeName := typeName }).HealthBounded := by
  have placed :
      (({ id := id, typeName := typeName } : Entity α).put .position place).HealthBounded :=
    (Entity.HealthBounded.bare id typeName).put nofun
  cases itemId with
  | none => exact placed
  | some itemId => exact placed.put nofun

theorem isOutward_healthBounded :
    World.IsOutward fun w w' : World α => w.HealthBounded → w'.HealthBounded where
  refl _ := id
  trans first second bounded := second (first bounded)
  move _ found bounded := bounded.place ((bounded _ _ found).put nofun)
  remake _ found bounded := bounded.place ((bounded _ _ found).put nofun)
  spawn _ typeName itemId place bounded :=
    bounded.spawn (fun id => furnish place itemId { id := id, typeName := typeName })
      (healthBounded_furnish place itemId _ typeName)
  emit room bounded := bounded.emit room

/-! ## What writes pools -/

theorem keeps_changeHealth (target : EntityId) {f : Health α → Health α}
    (fits : ∀ h, h.Bounded → (f h).Bounded) (s : Execution α) :
    ∃ s', changeHealth target f s = .ok () s' ∧ s.KeepsHealth s' :=
  changeHealth_ok target f s id fun e h found held bounded =>
    have own := bounded target e found
    bounded.place (own.putHealth (fits h (own.get? held)))

theorem keeps_changeMaximum {expiresAt : Option Nat} {f : Health α → Health α}
    (fits : ∀ h, h.Bounded → (f h).Bounded) : Keeps (changeMaximum target expiresAt f) s :=
  .onSlot id fun _ h found held => keeps_commit found fun own =>
    own.putHealth (fits h (own.get? held))

theorem keeps_changeStats {stat : String} {expiresAt : Option Nat}
    {f : StatBlock α → StatBlock α} {after : StatBlock α → α} :
    Keeps (changeStats target stat expiresAt f after) s :=
  .onEntity id fun _ found => keeps_commit found fun own => own.put nofun

section

variable [Quantity.Rounded α]

theorem keeps_restore {amount : α} (nonneg : 0 ≤ amount) : Keeps (restore target amount) s := by
  obtain ⟨s', changed, keeps⟩ := keeps_changeHealth target (f := (·.heal amount))
    (fun _ bounded => bounded.heal nonneg) (s.countHealing amount)
  exact .of_eq changed keeps

theorem keeps_wound {requested : α} (nonneg : 0 ≤ requested) :
    Keeps (c.wound target requested) s := by
  have granted := s.governor.damageLeft_nonneg c.settings.limits nonneg
  obtain ⟨s', changed, keeps⟩ := keeps_changeHealth target
    (fun _ bounded => bounded.damage granted) (s.grantDamage c.settings.limits target requested)
  exact .of_eq ((bind_ok (allotDamage_eq requested)).trans changed) keeps

theorem keeps_setHealth {value : Health α → α}
    (numbers : ∀ h, h.Bounded → Quantity.isNaN (value h) = false) :
    Keeps (setHealth target value) s := by
  refine .onSlot id fun e h found held => ?_
  split
  · exact .throw ⟨rfl, fun _ => rfl⟩
  · next h' set =>
      refine keeps_commit found fun own => own.putHealth ?_
      obtain ⟨changed, set', fits⟩ := (own.get? held).setCurrent? (value h)
      rw [set] at set'
      cases set'
      exact fits (numbers h (own.get? held))

theorem setHealth_ok (bounded : s.world.HealthBounded) (target : EntityId) (value : Health α → α) :
    ∃ s', setHealth target value s = .ok () s' := by
  unfold setHealth
  cases found : s.world.entity? target with
  | none => exact ⟨s, onEntity_none found⟩
  | some e =>
      unfold onSlot
      rw [onEntity_some found]
      cases held : e.get? .health with
      | none => exact ⟨s, rfl⟩
      | some h =>
          obtain ⟨changed, set, -⟩ := ((bounded target e found).get? held).setCurrent? (value h)
          simp only [set]
          exact ⟨_, rfl⟩

end

/-! ## All actions -/

section

variable [Scalar.Rounded α]

theorem nonneg_of_finite {x : α} (finite : Scalar.isFinite x = true) (least : ¬ x < 0) : 0 ≤ x :=
  Quantity.Ordered.le_of_not_lt Quantity.Ordered.isNaN_zero
    (Scalar.Finitary.isNaN_of_isFinite finite) least

theorem keeps_dealDamage {damageType : String} {amount : Expr α}
    (finite : c.EvaluatesFinite target (.dealDamage damageType amount) s) :
    Keeps (c.dealDamage target damageType amount) s := by
  refine .bind (.checked (Vocabulary.plain_checkDamageType ..) False.elim) fun named => ?_
  obtain ⟨-, rfl⟩ := check_ok named
  refine .bind (reads_evalNumber amount) fun evaluated => ?_
  split
  · next negative => exact keeps_restore (Quantity.Rounded.neg_nonneg negative)
  · next least => exact keeps_wound (nonneg_of_finite (finite amount rfl _ _ evaluated) least)

theorem keeps_heal {amount : Expr α} (finite : c.EvaluatesFinite target (.heal amount) s) :
    Keeps (c.heal target amount) s := by
  refine .bind (reads_evalNumber amount) fun evaluated => ?_
  split
  · exact .throw ⟨rfl, fun _ => rfl⟩
  · next least => exact keeps_restore (nonneg_of_finite (finite amount rfl _ _ evaluated) least)

theorem keeps_modifyStat {stat : String} {amount : Expr α} {duration : Option (Expr α)}
    (finite : c.EvaluatesFinite target (.modifyStat stat amount duration) s) :
    Keeps (c.modifyStat target stat amount duration) s := by
  refine .bind (.checked (Vocabulary.plain_checkStat _) False.elim) fun named => ?_
  obtain ⟨-, rfl⟩ := check_ok named
  refine .bind (reads_evalNumber amount) fun evaluated => .bind (reads_expiry ..) fun _ => ?_
  have added := finite amount rfl _ _ evaluated
  split
  · split
    · exact .throw ⟨rfl, fun _ => rfl⟩
    · exact keeps_setHealth fun h bounded =>
        Scalar.Rounded.isNaN_add (Quantity.Rounded.isNaN_of_le bounded.nonneg).2 added
  · split
    · exact keeps_changeMaximum fun h bounded => bounded.adjustMax ..
    · exact keeps_changeStats

theorem keeps_setStat {stat : String} {value : Expr α}
    (finite : c.EvaluatesFinite target (.setStat stat value) s) :
    Keeps (c.setStat target stat value) s := by
  refine .bind (.checked (Vocabulary.plain_checkStat _) False.elim) fun named => ?_
  obtain ⟨-, rfl⟩ := check_ok named
  refine .bind (reads_evalNumber value) fun evaluated => ?_
  have number := Scalar.Finitary.isNaN_of_isFinite (finite value rfl _ _ evaluated)
  split
  · exact keeps_setHealth fun _ _ => number
  · split
    · exact keeps_changeMaximum fun h bounded => bounded.setMax _
    · exact keeps_changeStats

theorem keeps_perform {action : Action α} (finite : c.EvaluatesFinite target action s) :
    Keeps (c.perform target action) s := by
  cases action with
  | dealDamage => exact keeps_dealDamage finite
  | heal => exact keeps_heal finite
  | applyStatus status duration count =>
      refine .bind (.checked (Vocabulary.plain_checkStatus ..) False.elim) fun _ => ?_
      refine .bind (reads_evalCount ..) fun _ => .bind (reads_expiry ..) fun _ => ?_
      split
      · exact .pure id
      · exact .onEntity id fun e found => keeps_commit found fun own => own.put nofun
  | removeStatus status count =>
      refine .bind (.checked (Vocabulary.plain_checkStatus ..) False.elim) fun _ => ?_
      refine .bind (reads_evalStacks count) fun _ => ?_
      split
      · exact .pure id
      · exact .onSlot id fun e table found held => keeps_commit found fun own => own.put nofun
  | modifyStat => exact keeps_modifyStat finite
  | setStat => exact keeps_setStat finite
  | teleport | push | pull | spawnEntity | spawnItem | transformMaterial | emitEvent =>
      exact isOutward_healthBounded.perform trivial
  | transformEntity toType duration =>
      refine .bind (.checked (Vocabulary.plain_checkEntityType ..) False.elim) fun _ => ?_
      refine .bind (reads_expiry ..) fun _ => .onEntity id fun e found => keeps_commit found ?_
      intro own
      exact Entity.HealthBounded.put (e := { e with typeName := toType }) own nofun

end

/-! ## Bounds out of order -/

theorem evalNumber_world {e : Expr α} {x : α} {s' : Execution α}
    (evaluated : c.evalNumber target e s = .ok x s') : s'.world = s.world := by
  have reads : (c.evalNumber target e).Reads False s := reads_evalNumber e
  exact (Reads.drawn reads evaluated).world

theorem expiry_world {what : String} {duration : Option (Expr α)} {expiresAt : Option Nat}
    {s' : Execution α} (expires : c.expiry target what duration s = .ok expiresAt s') :
    s'.world = s.world := by
  have reads : (c.expiry target what duration).Reads False s := reads_expiry what duration
  exact (Reads.drawn reads expires).world

omit [Scalar α] in
theorem checkStat_fails {stat : String} {reason : Prop} :
    (Run.check (Vocabulary.checkStat stat) : Run α Unit).Fails (Fault.BreaksOnlyIf reason) s := by
  refine .check fun refused broken => ?_
  subst broken
  unfold Vocabulary.checkStat Vocabulary.checkName at refused
  split at refused
  · cases refused
  · split at refused <;> cases refused

section

variable [Scalar.Rounded α] {stat : String}

theorem evalNumber_fails (e : Expr α) :
    (c.evalNumber target e).Fails (Fault.BreaksOnlyIf (c.ReadsNaN target s.world e)) s := by
  refine .get_bind ⟨fun {fault s'} failed broken => ?_⟩
  subst broken
  refine Expr.reads_nan_of_brokenBounds (e := e) ⟨s.stream, ?_⟩
  cases evaluated : e.evalNumber ⟨s.world, c.caster, some target⟩ s.stream with
  | ok x stream =>
      simp only [Run.draw, evaluated] at failed
      cases failed
  | error fault stream =>
      simp only [Run.draw, evaluated] at failed
      cases failed
      exact ⟨stream, .inr (.inl rfl)⟩

theorem expiry_fails (what : String) (duration : Option (Expr α)) :
    (c.expiry target what duration).Fails
      (Fault.BreaksOnlyIf (∃ e ∈ duration.toList, c.ReadsNaN target s.world e)) s := by
  cases duration with
  | none => exact .pure none
  | some e =>
      refine .bind ⟨fun failed broken => ⟨e, by simp, (evalNumber_fails e).fault failed broken⟩⟩
        fun _ => ?_
      split
      · exact .throw fun broken => by cases broken
      · split
        · exact .pure _
        · exact .pure _

/-- Where pools are within their bounds, a stat is set without meeting bounds that are out of order,
unless its value reads something that is no number. -/
theorem setStat_fails_of_bounded (bounded : s.world.HealthBounded) (value : Expr α) :
    (c.setStat target stat value).Fails
      (Fault.BreaksOnlyIf (c.ReadsNaN target s.world value)) s := by
  refine .bind checkStat_fails fun named => ?_
  obtain ⟨-, rfl⟩ := check_ok named
  refine .bind (evalNumber_fails value) fun {x s'} evaluated => ?_
  rw [← evalNumber_world evaluated] at bounded
  split
  · obtain ⟨_, set⟩ := setHealth_ok bounded target fun _ => x
    exact .of_ok set
  · split
    · exact .onSlot fun _ _ _ => .of_ok rfl
    · exact .onEntity fun _ _ => .of_ok rfl

/-- The same of a change, which also evaluates how long it is to last. -/
theorem modifyStat_fails_of_bounded (bounded : s.world.HealthBounded) (amount : Expr α)
    (duration : Option (Expr α)) :
    (c.modifyStat target stat amount duration).Fails
      (Fault.BreaksOnlyIf (∃ e ∈ amount :: duration.toList, c.ReadsNaN target s.world e)) s := by
  refine .bind checkStat_fails fun named => ?_
  obtain ⟨-, rfl⟩ := check_ok named
  refine .bind ⟨fun failed broken => ?_⟩ fun {x s₁} evaluated => ?_
  · exact ⟨amount, List.mem_cons_self, (evalNumber_fails amount).fault failed broken⟩
  rw [← evalNumber_world evaluated] at bounded ⊢
  refine .bind ⟨fun failed broken => ?_⟩ fun {expiresAt s₂} expires => ?_
  · obtain ⟨e, listed, reads⟩ := (expiry_fails _ duration).fault failed broken
    exact ⟨e, List.mem_cons_of_mem _ listed, reads⟩
  rw [← expiry_world expires] at bounded
  split
  · split
    · exact .throw fun broken => by cases broken
    · obtain ⟨_, set⟩ := setHealth_ok bounded target fun h => h.current + x
      exact .of_ok set
  · split
    · exact .onSlot fun _ _ _ => .of_ok rfl
    · exact .onEntity fun _ _ => .of_ok rfl

end

end Cast

end Grimoire
