import Grimoire.Proofs.World.Boosts
import Grimoire.Proofs.World.Character

/-! # What a stat comes to

A stat is kept in two places, in its base and in a list of modifiers that all stats share, and what is
done to it goes to one or the other and is taken away again.  What a stat is worth by its annals is said
without either: it is what the stat was last set to, and all that it was changed by since then and that
lasts.
-/

namespace Grimoire

variable {α : Type}

namespace Deed

def amount? (stat : String) : Deed α → Option α
  | change about amount _ => if about = stat then some amount else none
  | _ => none

def setting? (stat : String) : Deed α → Option α
  | set about value => if about = stat then some value else none
  | _ => none

end Deed

namespace Entry

def lastSetting? (stat : String) (entries : List (Entry α)) : Option α :=
  (entries.filterMap (·.deed.setting? stat)).getLast?

def since (stat : String) (entries : List (Entry α)) : List (Entry α) :=
  entries.rtakeWhile fun entry => (entry.deed.setting? stat).isNone

/-- What a stat was changed by since it was last set, as far as it lasts. -/
def standing (stat : String) (entries : List (Entry α)) (now : Nat) : List α :=
  ((since stat entries).filter (·.lasts now)).filterMap (·.deed.amount? stat)

end Entry

/-! ## Ticks -/

namespace StatBlock

variable (s : StatBlock α)

theorem expire_expire {now later : Nat} (le : now ≤ later) :
    ((s.expire now).1.expire later).1 = (s.expire later).1 := by
  have kept : (s.modifiers.filter fun m => !m.isLapsed now).filter (fun m => !m.isLapsed later) =
      s.modifiers.filter fun m => !m.isLapsed later := by
    rw [List.filter_filter]
    refine List.filter_congr fun m _ => ?_
    unfold StatModifier.isLapsed
    cases m.expiresAt with
    | none => rfl
    | some t =>
        simp only [← decide_not, ← Bool.decide_and]
        exact decide_eq_decide.mpr (by omega)
  simp only [expire, kept]

theorem expire_of_fresh {tick : Nat} (fresh : ∀ m ∈ s.modifiers, m.isLapsed tick = false) :
    (s.expire tick).1 = s := by
  have kept : s.modifiers.filter (fun m => !m.isLapsed tick) = s.modifiers :=
    List.filter_eq_self.mpr fun m listed => by rw [fresh m listed, Bool.not_false]
  simp only [expire, kept]

end StatBlock

/-! ## Deeds -/

variable [Quantity α]

namespace StatBlock

variable (s : StatBlock α)

def after (s : StatBlock α) : Deed α → StatBlock α
  | .change stat amount expiresAt => s.change stat amount expiresAt
  | .set stat value => s.setBase stat value
  | .transform .. => s

theorem expire_after (d : Deed α) (tick : Nat) : ((s.after d).expire tick).1 =
    if isAhead d.expiresAt? tick then (s.expire tick).1.after d else (s.expire tick).1 := by
  cases d with
  | change stat amount expiresAt =>
      cases expiresAt with
      | none => rfl
      | some t =>
          by_cases still : tick < t
          · simp [after, change, addModifier, expire, Deed.expiresAt?, isAhead, StatModifier.isLapsed, still]
          · simp [after, change, addModifier, expire, Deed.expiresAt?, isAhead, StatModifier.isLapsed, still,
              Nat.le_of_not_lt still]
  | set stat value =>
      simp only [after, setBase, expire, Deed.expiresAt?, isAhead, Option.all_none, if_true,
        List.filter_filter, Bool.and_comm]
  | transform toType expiresAt => simp only [after, ite_self]

end StatBlock

def Deed.tally (value : α → ℚ) (stat : String) (d : Deed α) (x : ℚ) : ℚ :=
  match d.setting? stat with
  | some v => value v
  | none => x + ((d.amount? stat).map value).getD 0

namespace Exact

variable [Quantity.Neutral α] {value : α → ℚ} (reading : Exact value)

include reading

theorem value_effective (s : StatBlock α) (stat : String) : value (s.effective stat) =
    value (s.baseOf stat) +
      (((s.modifiers.filter fun m => m.stat == stat).map (·.amount)).map value).sum := by
  rw [StatBlock.effective, reading.add, reading.value_sum]

theorem value_effective_change (s : StatBlock α) (stat : String) (amount : α)
    (expiresAt : Option Nat) :
    value ((s.change stat amount expiresAt).effective stat) = value (s.effective stat) + value amount := by
  rw [reading.value_effective, reading.value_effective]
  cases expiresAt with
  | none =>
      have base : (s.addBase stat amount).baseOf stat = s.baseOf stat + amount := by
        simp [StatBlock.addBase, StatBlock.baseOf]
      change value ((s.addBase stat amount).baseOf stat) + _ = _
      rw [base, reading.add, add_right_comm]
      rfl
  | some expiry =>
      have more : (s.addModifier stat amount (some expiry)).modifiers.filter (·.stat == stat) =
          s.modifiers.filter (·.stat == stat) ++ [⟨stat, amount, some expiry⟩] := by
        simp [StatBlock.addModifier, List.filter_append]
      change value (s.baseOf stat) +
        ((((s.addModifier stat amount (some expiry)).modifiers.filter _).map _).map value).sum = _
      rw [more]
      simp [add_assoc]

theorem value_effective_after (s : StatBlock α) (stat : String) (d : Deed α) :
    value ((s.after d).effective stat) = d.tally value stat (value (s.effective stat)) := by
  unfold StatBlock.after Deed.tally
  cases d with
  | change about amount expiresAt =>
      by_cases same : about = stat
      · subst same
        simp [Deed.setting?, Deed.amount?, reading.value_effective_change]
      · simp [Deed.setting?, Deed.amount?, same, s.effective_change_of_ne amount expiresAt same]
  | set about v =>
      by_cases same : about = stat
      · subst same
        simp [Deed.setting?, s.effective_setBase]
      · simp [Deed.setting?, Deed.amount?, same, s.effective_setBase_of_ne v same]
  | transform => simp [Deed.setting?, Deed.amount?]

end Exact

/-! ## Annals -/

/-- What a stat is worth: what it was last set to, or what it comes to without the modifiers that were
there and have lapsed; and what it was changed by since then and lasts. -/
def StatBlock.worth (opening : StatBlock α) (value : α → ℚ) (stat : String) (entries : List (Entry α))
    (now : Nat) : ℚ :=
  value ((Entry.lastSetting? stat entries).getD ((opening.expire now).1.effective stat)) +
    ((Entry.standing stat entries now).map value).sum

namespace StatBlock

variable (opening : StatBlock α) (value : α → ℚ) (stat : String) (entries : List (Entry α)) (now : Nat)

theorem worth_nil : opening.worth value stat [] now = value ((opening.expire now).1.effective stat) :=
  add_zero _

theorem worth_snoc (entry : Entry α) : opening.worth value stat (entries ++ [entry]) now =
    if entry.lasts now then entry.deed.tally value stat (opening.worth value stat entries now)
    else opening.worth value stat entries now := by
  unfold worth Deed.tally Entry.standing Entry.since Entry.lastSetting?
  cases set : entry.deed.setting? stat with
  | some v =>
      have lasts : entry.lasts now = true := by
        obtain ⟨tick, d⟩ := entry
        cases d with
        | set => simp [Entry.lasts, Deed.expiresAt?, isAhead]
        | _ => cases set
      simp [set, lasts]
  | none =>
      cases lasts : entry.lasts now with
      | false => simp [set, lasts]
      | true =>
          cases amount : entry.deed.amount? stat <;>
            simp [set, lasts, amount, add_assoc]

end StatBlock

/-- Whether a stat is worth what its annals say, and is going to be as far as they go. -/
structure StatBlock.Balanced (s opening : StatBlock α) (value : α → ℚ) (stat : String)
    (entries : List (Entry α)) (now : Nat) : Prop where
  present : value (s.effective stat) = opening.worth value stat entries now
  future : ∀ later > now,
    value ((s.expire later).1.effective stat) = opening.worth value stat entries later

namespace StatBlock.Balanced

variable {s opening : StatBlock α} {value : α → ℚ} {stat : String} {entries : List (Entry α)}
  {now : Nat}

theorem start (fresh : ∀ m ∈ opening.modifiers, m.isLapsed now = false) :
    opening.Balanced opening value stat [] now where
  present := by rw [worth_nil, opening.expire_of_fresh fresh]
  future tick _ := (opening.worth_nil value stat tick).symm

theorem after [Quantity.Neutral α] (reading : Exact value)
    (balanced : s.Balanced opening value stat entries now) (d : Deed α) :
    (s.after d).Balanced opening value stat (entries ++ [⟨now, d⟩]) now where
  present := by
    rw [reading.value_effective_after, balanced.present, worth_snoc, if_pos (Entry.lasts_same now d)]
  future tick ahead := by
    rw [expire_after, worth_snoc, Entry.lasts_later ahead]
    split
    · rw [reading.value_effective_after, balanced.future tick ahead]
    · exact balanced.future tick ahead

theorem expire (balanced : s.Balanced opening value stat entries now) :
    (s.expire (now + 1)).1.Balanced opening value stat entries (now + 1) where
  present := balanced.future _ (Nat.lt_succ_self now)
  future tick ahead := by
    rw [s.expire_expire (Nat.le_of_lt ahead)]
    exact balanced.future tick (Nat.lt_of_succ_lt ahead)

end StatBlock.Balanced

end Grimoire
