import Grimoire.Proofs.Run.Strikes
import Grimoire.Proofs.World.Boosts
import Grimoire.Proofs.World.Lapse

/-! # Maxima in a world

The maximum of a pool is changed for a time by an action, and whatever lapses is undone as the world goes
on.  `World.Boosted` lists the turns that a pool takes in this way, and `Health.max_after_lapsing` says
what is left of them once all have lapsed: the maximum is above what it was by as much as undoing was
short of, and it is what it was if and only if undoing was never short.
-/

namespace Grimoire

open Run

variable {α : Type}

/-! ## Courses -/

variable [Scalar α]

theorem Cast.get?_modifyStat_maxHealth {c : Cast α} {target : EntityId} {amount : Expr α}
    {duration : Option (Expr α)} {s s₁ s₂ s' : Execution α} {n : α} {expiresAt : Option Nat}
    (amounts : c.evalNumber target amount s = .ok n s₁)
    (expires : c.expiry target "modify_stat.duration" duration s₁ = .ok expiresAt s₂)
    (ran : c.modifyStat target "maxHealth" amount duration s = .ok () s') {h : Health α}
    (held : s.world.get? target .health = some h) :
    s'.world.get? target .health = some (h.adjustMax n expiresAt) := by
  have first : (c.evalNumber target amount).Reads True s := reads_evalNumber amount
  have second : (c.expiry target "modify_stat.duration" duration).Reads True s₁ :=
    reads_expiry _ duration
  have drawn : s.Drawn s₂ := (first.drawn amounts).trans (second.drawn expires)
  obtain ⟨e, found, pool⟩ := Option.bind_eq_some_iff.mp held
  have same : s₂.world.entity? target = some e := by rw [drawn.world, found]
  obtain ⟨_, s₀, named, rest⟩ := ok_of_bind ran
  obtain ⟨-, rfl⟩ := check_ok named
  rw [bind_ok amounts, bind_ok expires, if_neg (by decide), if_pos rfl] at rest
  unfold changeMaximum onSlot at rest
  rw [onEntity_some same, pool] at rest
  cases rest
  change (World.entity? (World.place _ target _) target).bind _ = _
  rw [World.entity?_place]
  exact Entity.get?_put _ _ _

/-- The turns that the pool of an entity takes while its maximum is changed for a time and while the
world goes on. -/
inductive World.Boosted (id : EntityId) : World α → List (Health.Turn α) → World α → Prop where
  | start (w) : Boosted id w [] w
  | modify {w ts c s s₁ s₂ s' amount duration n tick} (before : Boosted id w ts s.world)
      (amounts : Cast.evalNumber c id amount s = .ok n s₁)
      (expires : c.expiry id "modify_stat.duration" (some duration) s₁ = .ok (some tick) s₂)
      (ran : c.perform id (.modifyStat "maxHealth" amount (some duration)) s = .ok () s') :
      Boosted id w (ts ++ [.adjust n tick]) s'.world
  | advance {w ts w'} (before : Boosted id w ts w') :
      Boosted id w (ts ++ [.expire (w'.tick + 1)]) w'.advance.2

theorem World.Boosted.get?_health {id : EntityId} {w w' : World α} {ts : List (Health.Turn α)}
    (course : Boosted id w ts w') {h : Health α} (held : w.get? id .health = some h) :
    w'.get? id .health = some (h.turns ts) := by
  induction course with
  | start => exact held
  | modify before amounts expires ran ih =>
      rw [Health.turns, List.foldl_append]
      exact Cast.get?_modifyStat_maxHealth amounts expires ran ih
  | advance before ih =>
      obtain ⟨e, found, pool⟩ := Option.bind_eq_some_iff.mp ih
      rw [Health.turns, List.foldl_append, World.get?, entity?_advance, found]
      change (e.lapse _).get? .health = _
      rw [Entity.get?_lapse_health, pool]
      rfl

/-! ## What is left -/

namespace Health

variable {value : α → ℚ} {h : Health α} {ts : List (Turn α)}

/-- When all boosts have lapsed, the maximum is above the first one by the sum of the shortfalls, that
is of what the lapses could not undo. So it is restored if and only if no lapse falls short, which holds
whenever all boosts have the same sign. The pools of a world take no other turns than these. -/
theorem max_after_lapsing [Quantity.Neutral α] (reading : Exact value) (nonneg : 0 ≤ value h.max)
    (fresh : h.boosts = []) (lapsed : (h.turns ts).boosts = []) :
    value (h.turns ts).max = value h.max + h.shortfalls value ts ∧ 0 ≤ h.shortfalls value ts ∧
    (value (h.turns ts).max = value h.max ↔
      ∀ earlier tick later, ts = earlier ++ .expire tick :: later →
        (h.turns earlier).undone value tick ≤ value (h.turns earlier).max) ∧
    ((∀ amount tick, .adjust amount tick ∈ ts → 0 ≤ value amount) ∨
      (∀ amount tick, .adjust amount tick ∈ ts → value amount ≤ 0) →
      value (h.turns ts).max = value h.max) ∧
    ∀ {id : EntityId} {w w' : World α}, World.Boosted id w ts w' →
      w.get? id .health = some h → w'.get? id .health = some (h.turns ts) := by
  have account := value_max_turns reading nonneg ts
  rw [fresh, lapsed, show total value [] = 0 from rfl, sub_zero, sub_zero] at account
  have restored : value (h.turns ts).max = value h.max ↔ h.shortfalls value ts = 0 := by
    rw [account, add_eq_left]
  refine ⟨account, h.shortfalls_nonneg ts, ?_, fun oneWay => ?_, fun course => course.get?_health⟩
  · rw [restored, shortfalls_eq_zero_iff]
  · rw [restored]
    rcases oneWay with up | down
    · have start : h.Raised value := by
        refine ⟨?_, ?_⟩
        · rw [fresh]
          exact fun b listed => absurd listed List.not_mem_nil
        · rw [fresh]
          exact nonneg
      refine shortfalls_eq_zero (fun h raised t listed => ?_) (fun _ => Raised.undone_le) start
      refine raised.turn reading fun amount tick same => ?_
      subst same
      exact up amount tick listed
    · have start : h.Lowered value := by
        refine ⟨nonneg, ?_⟩
        rw [fresh]
        exact fun b listed => absurd listed List.not_mem_nil
      refine shortfalls_eq_zero (fun h lowered t listed => ?_) (fun _ => Lowered.undone_le) start
      refine lowered.turn reading fun amount tick same => ?_
      subst same
      exact down amount tick listed

end Health

/-! ### A maximum that is not what it was -/

section

local instance : Scalar ℚ := rational

local instance : Quantity.Neutral ℚ := ⟨fun x => by
  change x + -(0 : ℚ) = x
  rw [neg_zero, add_zero]⟩

def vessel : Health ℚ := ⟨10, 10, []⟩

/-- A raise lapses while a later loss has taken more than was there before it. -/
def surge : List (Health.Turn ℚ) := [.adjust 5 2, .adjust (-15) 5, .expire 2, .expire 5]

/-- No boost is left, and the maximum is 15 instead of 10. -/
theorem surge_overfills : (vessel.turns surge).boosts = [] ∧ (vessel.turns surge).max = 15 := by
  decide +kernel

/-- The raise of 5 cannot be undone at a maximum of 0. -/
theorem surge_short : vessel.shortfalls id surge = 5 ∧ (vessel.turns surge).max = vessel.max + 5 := by
  have short : vessel.shortfalls id surge = 5 := by
    decide +kernel
  have lapsed : (vessel.turns surge).boosts = [] := by
    decide +kernel
  have nonneg : 0 ≤ vessel.max := by
    decide +kernel
  obtain ⟨account, -⟩ := Health.max_after_lapsing exact_rational nonneg rfl lapsed
  rw [short] at account
  exact ⟨short, account⟩

end

end Grimoire
