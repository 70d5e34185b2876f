import Grimoire.Proofs.Run.Outward
import Grimoire.Proofs.World.Lasting

/-! # Actions that last

Three kinds of actions have a duration: those that apply a status, change a stat or the maximum, and
transform.  What they apply ends so many ticks after the call, rounded up; without a duration, or with
none at all, it has no end.  Every other action leaves all that has an end as it is, or takes some of it
away.
-/

namespace Grimoire

open Run

variable {α : Type} [Scalar α]

def Scalar.ticks (d : α) : Nat := Scalar.toNatUpTo maxTick (Scalar.ceil d)

namespace Cast

/-- Evaluates what an action does until it knows its duration. -/
def duration (c : Cast α) (target : EntityId) : Action α → Run α (Option α)
  | .applyStatus _ (some duration) count => do
    let _ ← c.evalCount target "apply_status.stacks" count
    let d ← c.evalNumber target duration
    pure (some d)
  | .modifyStat _ amount (some duration) => do
    let _ ← c.evalNumber target amount
    let d ← c.evalNumber target duration
    pure (some d)
  | .transformEntity _ (some duration) => do
    let d ← c.evalNumber target duration
    pure (some d)
  | _ => pure none

/-- The duration that an action comes to in a state, if it has one and nothing fails before. -/
def duration? (c : Cast α) (target : EntityId) (action : Action α) (s : Execution α) : Option α :=
  match c.duration target action s with
  | .ok d _ => d
  | .error .. => none

def endOf (c : Cast α) : Option α → Option Nat
  | none => none
  | some d => if d == 0 then none else some (c.tickAfter (Scalar.ticks d))

/-- What an action that succeeds does to what has an end. -/
structure Treats (c : Cast α) (target : EntityId) (action : Action α) (s s₁ s' : Execution α) :
    Prop where
  least : ∀ d, c.duration? target action s = some d → ¬ d < 0
  world : s₁.world.Treated action (c.endOf (c.duration? target action s)) target s'.world

variable {c : Cast α} {target : EntityId} {action : Action α} {s s₁ s' : Execution α}

theorem endOf_zero {d : α} (zero : (d == 0) = true) : c.endOf (some d) = none := by
  simp only [endOf, zero, if_true]

theorem endOf_some {d : α} (nonzero : (d == 0) = false) :
    c.endOf (some d) = some (min (c.tick + Scalar.ticks d) maxTick) := by
  simp only [endOf, nonzero, Bool.false_eq_true, if_false]
  rfl

theorem duration?_of_ok {d : Option α} (known : c.duration target action s = .ok d s') :
    c.duration? target action s = d := by
  unfold duration?
  rw [known]

theorem expiry_some {what : String} {e : Expr α} {expiresAt : Option Nat}
    (expires : c.expiry target what (some e) s = .ok expiresAt s') :
    ∃ d, c.evalNumber target e s = .ok d s' ∧ ¬ d < 0 ∧ expiresAt = c.endOf (some d) := by
  change (c.evalNumber target e >>= _) s = _ at expires
  obtain ⟨d, s₁, evaluated, expires⟩ := ok_of_bind expires
  by_cases negative : d < 0
  · simp only [if_pos negative] at expires
    cases expires
  · simp only [if_neg negative] at expires
    cases zero : d == 0 with
    | true =>
        simp only [zero, if_true] at expires
        cases expires
        exact ⟨d, evaluated, negative, (endOf_zero zero).symm⟩
    | false =>
        simp only [zero, Bool.false_eq_true, if_false] at expires
        cases expires
        exact ⟨d, evaluated, negative, (endOf_some zero).symm⟩

/-- When what an action applies is to end, if its duration is what is evaluated for that. -/
theorem ends_of_expiry (action : Action α) {what : String} {duration : Option (Expr α)}
    {expiresAt : Option Nat}
    (expires : c.expiry target what duration s₁ = .ok expiresAt s')
    (absent : duration = none → c.duration? target action s = none)
    (given : ∀ {e d}, duration = some e → c.evalNumber target e s₁ = .ok d s' →
      c.duration? target action s = some d) :
    (∀ d, c.duration? target action s = some d → ¬ d < 0) ∧
      expiresAt = c.endOf (c.duration? target action s) := by
  cases duration with
  | none =>
      rw [absent rfl]
      cases expires
      exact ⟨nofun, rfl⟩
  | some e =>
      obtain ⟨d, evaluated, least, ends⟩ := expiry_some expires
      rw [given rfl evaluated]
      exact ⟨fun d' same => by cases same; exact least, ends⟩

/-! ## What leaves all ends alone -/

omit [Scalar α] in
theorem timed_furnish (place : Position α) (itemId : Option String) (id : EntityId)
    (typeName : String) :
    (furnish place itemId { id := id, typeName := typeName }).timed =
      ({ id := id, typeName := typeName } : Entity α).timed := by
  unfold furnish
  cases itemId with
  | none => exact Entity.timed_put _ .position place (by simp)
  | some itemId =>
      exact (Entity.timed_put _ .item _ (by simp)).trans (Entity.timed_put _ .position place (by simp))

omit [Scalar α] in
theorem isOutward_grown : World.IsOutward (World.Grown (α := α)) where
  refl := .refl
  trans := .trans
  move goal found := .replace found (Entity.timed_put _ .position goal (by simp))
  remake material found := .replace found (Entity.timed_put _ .material material (by simp))
  spawn _ typeName itemId place :=
    .spawn (fun id => furnish place itemId { id := id, typeName := typeName }) <| by
      rw [timed_furnish]
      exact Entity.isBlank_bare ..
  emit := .emit

omit [Scalar α] in
theorem boosts_of_get? {e : Entity α} {h : Health α} (held : e.get? .health = some h) :
    e.boosts = h.boosts := by
  unfold Entity.boosts
  rw [held]
  rfl

omit [Scalar α] in
theorem timed_put_pool {e : Entity α} {h h' : Health α} (held : e.get? .health = some h)
    (same : h'.boosts = h.boosts) : (e.put .health h').timed = e.timed := by
  rw [e.timed_put_health, same, ← boosts_of_get? held]
  rfl

omit [Scalar α] in
theorem isVital_grown : World.IsVital (World.Grown (α := α)) where
  refl := .refl
  pool found held same := .replace found (timed_put_pool held same)

/-! ## What has a duration -/

theorem Treats.of_grown (endless : c.duration? target action s = none)
    (other : ∀ toType duration, action ≠ .transformEntity toType duration)
    (grown : s₁.world.Grown s'.world) : c.Treats target action s s₁ s' where
  least d known := by cases endless.symm.trans known
  world := grown.treated other

theorem treats_applyStatus (status : String) (duration : Option (Expr α)) (count : Expr α) :
    (c.applyStatus target status duration count).Atomic False
      (fun _ => c.Treats target (.applyStatus status duration count) s) s := by
  refine .bind (.checked (Vocabulary.plain_checkStatus ..) False.elim) fun named => ?_
  obtain ⟨-, rfl⟩ := check_ok named
  refine .bind (reads_evalCount ..) fun {n _} counted => ?_
  refine .bind (reads_expiry ..) fun expires => ?_
  obtain ⟨least, rfl⟩ := ends_of_expiry (.applyStatus status duration count) expires
    (fun absent => by subst absent; rfl) fun given evaluated => by
      subst given
      exact duration?_of_ok ((bind_ok counted).trans (bind_ok evaluated))
  split
  · exact .pure ⟨least, (World.Grown.refl _).treated nofun⟩
  · refine .onEntity ⟨least, (World.Grown.refl _).treated nofun⟩ fun e found => ?_
    refine .of_eq rfl ⟨least, .replace found ?_⟩
    rw [e.timed_put_statuses]
    exact .apply e.timed n

omit [Scalar α] in
theorem treated_adjustMax [Quantity α] {amount : Expr α} {duration : Option (Expr α)} {e : Entity α}
    {h : Health α} (held : e.get? .health = some h) (x : α) (expiresAt : Option Nat) :
    e.timed.Treated (.modifyStat "maxHealth" amount duration) expiresAt
      (e.put .health (h.adjustMax x expiresAt)).timed := by
  cases expiresAt with
  | none =>
      have same : (e.put .health (h.adjustMax x none)).timed = e.timed := timed_put_pool held rfl
      rw [same]
      exact .alike e.timed nofun
  | some tick =>
      rw [e.timed_put_health]
      have kept : (h.adjustMax x (some tick)).boosts =
          e.timed.boosts ++ [⟨Quantity.positivePart (h.max + x) - h.max, tick⟩] := by
        rw [show e.timed.boosts = h.boosts from boosts_of_get? held]
        rfl
      rw [kept]
      exact .raise e.timed _

theorem treats_modifyStat (stat : String) (amount : Expr α) (duration : Option (Expr α)) :
    (c.modifyStat target stat amount duration).Atomic False
      (fun _ => c.Treats target (.modifyStat stat amount duration) s) s := by
  refine .bind (.checked (Vocabulary.plain_checkStat _) False.elim) fun named => ?_
  obtain ⟨-, rfl⟩ := check_ok named
  refine .bind (reads_evalNumber amount) fun {x _} evaluated => ?_
  refine .bind (reads_expiry ..) fun {expiresAt _} expires => ?_
  obtain ⟨least, ends⟩ := ends_of_expiry (.modifyStat stat amount duration) expires
    (fun absent => by subst absent; rfl) fun given evaluated' => by
      subst given
      exact duration?_of_ok ((bind_ok evaluated).trans (bind_ok evaluated'))
  split
  · split
    · exact .throw ⟨rfl, fun _ => rfl⟩
    · exact isVital_grown.setHealth.imp fun grown => ⟨least, grown.treated nofun⟩
  · split
    · next maximum =>
        subst maximum
        refine .onSlot ⟨least, (World.Grown.refl _).treated nofun⟩ fun e h found held => ?_
        refine .of_eq rfl ⟨least, .replace found ?_⟩
        rw [← ends]
        exact treated_adjustMax held x expiresAt
    · refine .onEntity ⟨least, (World.Grown.refl _).treated nofun⟩ fun e found => ?_
      refine .of_eq rfl ⟨least, .replace found ?_⟩
      rw [e.timed_put_stats, ← ends]
      cases expiresAt with
      | none => exact .alike e.timed nofun
      | some tick => exact .change e.timed x

theorem treats_setStat (stat : String) (value : Expr α) :
    (c.setStat target stat value).Atomic False
      (fun _ => c.Treats target (.setStat stat value) s) s := by
  refine .bind (.checked (Vocabulary.plain_checkStat _) False.elim) fun named => ?_
  obtain ⟨-, rfl⟩ := check_ok named
  refine .bind (reads_evalNumber value) fun {x _} _ => ?_
  split
  · exact isVital_grown.setHealth.imp (.of_grown rfl nofun)
  · split
    · next maximum =>
        subst maximum
        refine .onSlot (.of_grown rfl nofun (.refl _)) fun e h found held => ?_
        refine .of_eq rfl ⟨nofun, .replace found ?_⟩
        rw [e.timed_put_health]
        exact .setMax e.timed
    · refine .onEntity (.of_grown rfl nofun (.refl _)) fun e found => ?_
      refine .of_eq rfl ⟨nofun, .replace found ?_⟩
      rw [e.timed_put_stats]
      exact .setBase e.timed

theorem treats_removeStatus (status : String) (count : StackCount α) :
    (c.removeStatus target status count).Atomic False
      (fun _ => c.Treats target (.removeStatus status count) s) s := by
  refine .bind (.checked (Vocabulary.plain_checkStatus ..) False.elim) fun named => ?_
  obtain ⟨-, rfl⟩ := check_ok named
  refine .bind (reads_evalStacks count) fun {requested _} _ => ?_
  split
  · exact .pure (.of_grown rfl nofun (.refl _))
  · refine .onSlot (.of_grown rfl nofun (.refl _)) fun e table found held => ?_
    refine .of_eq rfl ⟨nofun, .replace found ?_⟩
    have statuses : e.timed.statuses = table := by
      change e.statusTable = table
      unfold Entity.statusTable
      rw [held]
      rfl
    rw [e.timed_put_statuses, ← statuses]
    exact .remove e.timed requested

theorem treats_transformEntity (toType : String) (duration : Option (Expr α)) :
    (c.transformEntity target toType duration).Atomic False
      (fun _ => c.Treats target (.transformEntity toType duration) s) s := by
  refine .bind (.checked (Vocabulary.plain_checkEntityType ..) False.elim) fun named => ?_
  obtain ⟨-, rfl⟩ := check_ok named
  refine .bind (reads_expiry ..) fun {_ s₁} expires => ?_
  obtain ⟨least, rfl⟩ := ends_of_expiry (.transformEntity toType duration) expires
    (fun absent => by subst absent; rfl) fun given evaluated => by
      subst given
      exact duration?_of_ok (bind_ok evaluated)
  cases found : s₁.world.entity? target with
  | none => exact .of_eq (onEntity_none found) ⟨least, .absent found⟩
  | some e =>
      refine .of_eq (onEntity_some found) ⟨least, .replace found ?_⟩
      rw [e.timed_transform]
      exact .transform e.timed _

theorem treats_perform (c : Cast α) (target : EntityId) (action : Action α) (s : Execution α) :
    (c.perform target action).Atomic False (fun _ => c.Treats target action s) s := by
  cases action with
  | applyStatus => exact treats_applyStatus ..
  | removeStatus => exact treats_removeStatus ..
  | modifyStat => exact treats_modifyStat ..
  | setStat => exact treats_setStat ..
  | transformEntity => exact treats_transformEntity ..
  | dealDamage damageType amount =>
      exact (isVital_grown.dealDamage damageType amount).imp (.of_grown rfl nofun)
  | heal amount => exact (isVital_grown.heal amount).imp (.of_grown rfl nofun)
  | teleport | push | pull | spawnEntity | spawnItem | transformMaterial | emitEvent =>
      refine .imp ?_ (.of_grown rfl nofun)
      exact isOutward_grown.perform trivial

end Cast

end Grimoire
