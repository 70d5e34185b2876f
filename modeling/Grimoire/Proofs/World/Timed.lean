import Grimoire.Effect.Action
import Grimoire.Proofs.Run.Stacks
import Grimoire.Proofs.World.Boosts
import Grimoire.Proofs.World.Lapse

/-! # What ends with time

Four kinds of records on an entity can have an expiry: statuses, modifiers of stats, boosts of the
maximum, and the transformation. `Timed` is these four, so that one account of actions and of ticks
covers them all.

A mark is one such record as an action leaves it. It is there until its expiry, as long as no action is
about the same stat, status or form, and gone from then on.
-/

namespace Grimoire

variable {α β : Type}

/-! ## Ends -/

theorem StatModifier.isLapsed_eq (m : StatModifier α) (tick : Nat) :
    m.isLapsed tick = m.expiresAt.any (· ≤ tick) := by
  unfold StatModifier.isLapsed
  cases m.expiresAt <;> rfl

theorem Statuses.isLapsed_eq (entry : StatusEntry) (tick : Nat) :
    Statuses.isLapsed entry tick = entry.expiresAt.any (· ≤ tick) := by
  unfold Statuses.isLapsed
  cases entry.expiresAt <;> rfl

theorem Transformation.isLapsed_eq (t : Transformation) (tick : Nat) :
    t.isLapsed tick = t.expiresAt.any (· ≤ tick) := by
  unfold Transformation.isLapsed
  cases t.expiresAt <;> rfl

theorem Statuses.laterExpiry_eq {old new : Option Nat} {tick : Nat}
    (ends : laterExpiry old new = some tick) : old = some tick ∨ new = some tick := by
  cases old with
  | none => cases ends
  | some a =>
      cases new with
      | none => cases ends
      | some b =>
          cases ends
          rcases Nat.le_total a b with less | more
          · exact .inr (congrArg some (Nat.max_eq_right less).symm)
          · exact .inl (congrArg some (Nat.max_eq_left more).symm)

theorem Statuses.expiresAt_apply {s : Statuses} {status name : String} {count : Nat}
    {expiresAt : Option Nat} {entry : StatusEntry} {tick : Nat}
    (held : (s.apply status count expiresAt).get? name = some entry)
    (ends : entry.expiresAt = some tick) :
    (∃ old, s.get? name = some old ∧ old.expiresAt = some tick) ∨ expiresAt = some tick := by
  by_cases same : status = name
  · subst same
    rw [get?_apply] at held
    cases held
    cases was : s.get? status with
    | none =>
        rw [was] at ends
        exact .inr ends
    | some old =>
        rw [was] at ends
        rcases laterExpiry_eq ends with kept | new
        · exact .inl ⟨old, rfl, kept⟩
        · exact .inr new
  · rw [get?_apply_of_ne _ _ _ same] at held
    exact .inl ⟨entry, held, ends⟩

theorem Statuses.expiresAt_remove {s : Statuses} {status name : String} {count : Option Nat}
    {entry : StatusEntry} (held : (s.remove status count).get? name = some entry) :
    ∃ old, s.get? name = some old ∧ old.expiresAt = entry.expiresAt := by
  by_cases same : status = name
  · subst same
    unfold remove at held
    cases was : s.get? status with
    | none =>
        simp only [was] at held
        cases held
    | some old =>
        simp only [was] at held
        refine ⟨old, rfl, ?_⟩
        split at held
        · simp [get?] at held
        · simp only [get?, Std.ExtTreeMap.getElem?_insert_self, Option.some.injEq] at held
          subst held
          rfl
  · rw [get?_remove_of_ne _ _ same] at held
    exact ⟨entry, held, rfl⟩

/-! ## The timed part of an entity -/

/-- The statuses of an entity, the changes of its stats and of its maximum, and its form. -/
structure Timed (α : Type) where
  statuses : Statuses
  modifiers : List (StatModifier α)
  boosts : List (Boost α)
  typeName : String
  form : Option Transformation

namespace Timed

/-- Whether something has its end at a tick. -/
inductive EndsAt (x : Timed α) (tick : Nat) : Prop
  | status {name entry} (held : x.statuses.get? name = some entry)
      (ends : entry.expiresAt = some tick)
  | modifier {m} (held : m ∈ x.modifiers) (ends : m.expiresAt = some tick)
  | boost {b} (held : b ∈ x.boosts) (ends : b.expiresAt = tick)
  | form {t} (held : x.form = some t) (ends : t.expiresAt = some tick)

/-- Whether there is nothing that could have an end. -/
structure IsBlank (x : Timed α) : Prop where
  statuses : ∀ name, x.statuses.get? name = none
  modifiers : x.modifiers = []
  boosts : x.boosts = []
  form : x.form = none

theorem IsBlank.not_endsAt {x : Timed α} (blank : x.IsBlank) (tick : Nat) : ¬ x.EndsAt tick := by
  rintro (⟨held, -⟩ | ⟨held, -⟩ | ⟨held, -⟩ | ⟨held, -⟩)
  · cases (blank.statuses _).symm.trans held
  · exact absurd (blank.modifiers ▸ held) List.not_mem_nil
  · exact absurd (blank.boosts ▸ held) List.not_mem_nil
  · cases blank.form.symm.trans held

def lapse (x : Timed α) (tick : Nat) : Timed α where
  statuses := x.statuses.expire tick
  modifiers := x.modifiers.filter fun m => !m.isLapsed tick
  boosts := x.boosts.filter fun b => !decide (b.expiresAt ≤ tick)
  typeName := ((x.form.filter (·.isLapsed tick)).map (·.formerType)).getD x.typeName
  form := x.form.filter fun t => !t.isLapsed tick

end Timed

namespace Entity

variable (e : Entity α)

def boosts : List (Boost α) := ((e.get? .health).map (·.boosts)).getD []

def timed : Timed α where
  statuses := e.statusTable
  modifiers := e.statBlock.modifiers
  boosts := e.boosts
  typeName := e.typeName
  form := e.get? .transformed

/-! ### Slots that are written -/

theorem timed_put (slot : Slot α β) (x : β)
    (other : slot.name ∉ ["statuses", "stats", "health", "transformed"]) :
    (e.put slot x).timed = e.timed := by
  simp only [List.mem_cons, List.not_mem_nil, or_false, not_or] at other
  obtain ⟨statuses, stats, health, transformed⟩ := other
  unfold timed statusTable statBlock boosts
  rw [e.get?_put_of_ne slot .statuses x statuses, e.get?_put_of_ne slot .stats x stats,
    e.get?_put_of_ne slot .health x health, e.get?_put_of_ne slot .transformed x transformed]
  rfl

theorem timed_put_statuses (table : Statuses) :
    (e.put .statuses table).timed = { e.timed with statuses := table } := by
  unfold timed statusTable statBlock boosts
  rw [get?_put, e.get?_put_of_ne .statuses .stats table (by simp),
    e.get?_put_of_ne .statuses .health table (by simp),
    e.get?_put_of_ne .statuses .transformed table (by simp)]
  rfl

theorem timed_put_stats (s : StatBlock α) :
    (e.put .stats s).timed = { e.timed with modifiers := s.modifiers } := by
  unfold timed statusTable statBlock boosts
  rw [get?_put, e.get?_put_of_ne .stats .statuses s (by simp),
    e.get?_put_of_ne .stats .health s (by simp),
    e.get?_put_of_ne .stats .transformed s (by simp)]
  rfl

theorem timed_put_health (h : Health α) :
    (e.put .health h).timed = { e.timed with boosts := h.boosts } := by
  unfold timed statusTable statBlock boosts
  rw [get?_put, e.get?_put_of_ne .health .statuses h (by simp),
    e.get?_put_of_ne .health .stats h (by simp),
    e.get?_put_of_ne .health .transformed h (by simp)]
  rfl

theorem timed_transform (typeName : String) (expiresAt : Option Nat) :
    (e.transform typeName expiresAt).timed =
      { e.timed with
        typeName := typeName
        form := some ⟨(e.timed.form.map (·.formerType)).getD e.typeName, expiresAt⟩ } := by
  unfold transform timed statusTable statBlock boosts
  dsimp only
  rw [get?_put, get?_put_of_ne _ .transformed .statuses _ (by simp),
    get?_put_of_ne _ .transformed .stats _ (by simp),
    get?_put_of_ne _ .transformed .health _ (by simp)]
  rfl

theorem isBlank_bare (id : EntityId) (typeName : String) :
    ({ id := id, typeName := typeName } : Entity α).timed.IsBlank := by
  constructor <;> simp [timed, statusTable, statBlock, boosts, Entity.get?, Statuses.get?]

theorem timed_lapse [Quantity α] (tick : Nat) : (e.lapse tick).timed = e.timed.lapse tick := by
  have statuses : (e.lapse tick).statusTable = e.statusTable.expire tick := by
    unfold statusTable
    rw [get?_lapse_statuses]
    cases e.get? .statuses with
    | some table => rfl
    | none =>
        have nothing : (∅ : NameMap StatusEntry) =
            (∅ : NameMap StatusEntry).filter fun _ entry => !Statuses.isLapsed entry tick := by
          refine Std.ExtTreeMap.ext_getElem? fun name => ?_
          simp [Std.ExtTreeMap.getElem?_filter]
        exact congrArg Statuses.mk nothing
  have stats : (e.lapse tick).statBlock.modifiers =
      e.statBlock.modifiers.filter fun m => !m.isLapsed tick := by
    unfold statBlock
    rw [get?_lapse_stats]
    cases e.get? .stats <;> rfl
  have boosts : (e.lapse tick).boosts = e.boosts.filter fun b => !decide (b.expiresAt ≤ tick) := by
    unfold Entity.boosts
    rw [get?_lapse_health]
    cases e.get? .health with
    | none => rfl
    | some h => exact Health.boosts_expire h tick
  have form : (e.lapse tick).typeName =
        (((e.get? .transformed).filter (·.isLapsed tick)).map (·.formerType)).getD e.typeName ∧
      (e.lapse tick).get? .transformed = (e.get? .transformed).filter fun t => !t.isLapsed tick := by
    cases held : e.get? .transformed with
    | none =>
        obtain ⟨typeName, record⟩ := e.lapse_stays tick fun t here => by rw [held] at here; cases here
        exact ⟨typeName, record.trans held⟩
    | some t =>
        cases lapsed : t.isLapsed tick with
        | true =>
            obtain ⟨typeName, record⟩ := e.lapse_reverts tick held lapsed
            simp [typeName, record, Option.filter, lapsed]
        | false =>
            obtain ⟨typeName, record⟩ := e.lapse_stays tick fun t' here => by
              rw [held] at here
              cases here
              exact lapsed
            simp [typeName, record, held, Option.filter, lapsed]
  unfold timed Timed.lapse
  rw [statuses, stats, boosts, form.1, form.2]

end Entity

/-! ## What actions make of it -/

namespace Timed

/-- What an action makes of its target, when what it applies has its end at a tick, or none. -/
inductive Treated : Action α → Option Nat → Timed α → Timed α → Prop where
  | alike {action expiresAt} (x : Timed α)
      (other : ∀ toType duration, action ≠ .transformEntity toType duration) :
      Treated action expiresAt x x
  | apply {status duration e expiresAt} (x : Timed α) (count : Nat) :
      Treated (.applyStatus status duration e) expiresAt x
        { x with statuses := x.statuses.apply status count expiresAt }
  | remove {status e expiresAt} (x : Timed α) (count : Option Nat) :
      Treated (.removeStatus status e) expiresAt x
        { x with statuses := x.statuses.remove status count }
  | change {stat e duration tick} (x : Timed α) (amount : α) :
      Treated (.modifyStat stat e duration) (some tick) x
        { x with modifiers := x.modifiers ++ [⟨stat, amount, some tick⟩] }
  | raise {e duration tick} (x : Timed α) (applied : α) :
      Treated (.modifyStat "maxHealth" e duration) (some tick) x
        { x with boosts := x.boosts ++ [⟨applied, tick⟩] }
  | setBase {stat e expiresAt} (x : Timed α) :
      Treated (.setStat stat e) expiresAt x
        { x with modifiers := x.modifiers.filter fun m => m.stat != stat }
  | setMax {e expiresAt} (x : Timed α) :
      Treated (.setStat "maxHealth" e) expiresAt x { x with boosts := [] }
  | transform {toType duration expiresAt} (x : Timed α) (formerType : String) :
      Treated (.transformEntity toType duration) expiresAt x
        { x with typeName := toType, form := some ⟨formerType, expiresAt⟩ }

variable {x x' : Timed α} {action : Action α} {expiresAt : Option Nat} {tick : Nat}

theorem Treated.mem_modifiers (treated : Treated action expiresAt x x') {m : StatModifier α}
    (listed : m ∈ x'.modifiers) :
    m ∈ x.modifiers ∨ ∃ t, m.expiresAt = some t ∧ expiresAt = some t := by
  cases treated with
  | change =>
      rcases List.mem_append.mp listed with old | new
      · exact .inl old
      · cases List.mem_singleton.mp new
        exact .inr ⟨_, rfl, rfl⟩
  | setBase => exact .inl (List.mem_of_mem_filter listed)
  | _ => exact .inl listed

theorem Treated.mem_boosts (treated : Treated action expiresAt x x') {b : Boost α}
    (listed : b ∈ x'.boosts) : b ∈ x.boosts ∨ expiresAt = some b.expiresAt := by
  cases treated with
  | raise =>
      rcases List.mem_append.mp listed with old | new
      · exact .inl old
      · cases List.mem_singleton.mp new
        exact .inr rfl
  | setMax => exact absurd listed List.not_mem_nil
  | _ => exact .inl listed

/-- Nothing has a new expiry but the one that was asked for. -/
theorem Treated.endsAt (treated : Treated action expiresAt x x') (ends : x'.EndsAt tick) :
    x.EndsAt tick ∨ expiresAt = some tick := by
  cases ends with
  | status held ends =>
      cases treated with
      | apply =>
          rcases Statuses.expiresAt_apply held ends with ⟨old, held, ends⟩ | new
          · exact .inl (.status held ends)
          · exact .inr new
      | remove =>
          obtain ⟨old, held, same⟩ := Statuses.expiresAt_remove held
          exact .inl (.status held (same.trans ends))
      | _ => exact .inl (.status held ends)
  | modifier held ends =>
      rcases treated.mem_modifiers held with old | ⟨t, ends', new⟩
      · exact .inl (.modifier old ends)
      · exact .inr (new.trans (ends'.symm.trans ends))
  | boost held ends =>
      rcases treated.mem_boosts held with old | new
      · exact .inl (.boost old ends)
      · exact .inr (new.trans (congrArg some ends))
  | form held ends =>
      cases treated with
      | transform =>
          cases held
          exact .inr ends
      | _ => exact .inl (.form held ends)

/-- What is left at a tick was there before and expires later. -/
theorem EndsAt.of_lapse {now : Nat} (ends : (x.lapse now).EndsAt tick) :
    x.EndsAt tick ∧ now < tick := by
  have later {expiresAt : Option Nat} (ends : expiresAt = some tick)
      (stays : (!expiresAt.any (· ≤ now)) = true) : now < tick := by
    subst ends
    simpa using stays
  cases ends with
  | status held ends =>
      simp only [lapse, Statuses.get?_expire, Option.filter_eq_some_iff] at held
      rw [Statuses.isLapsed_eq] at held
      exact ⟨.status held.1 ends, later ends held.2⟩
  | modifier held ends =>
      obtain ⟨held, stays⟩ := List.mem_filter.mp held
      rw [StatModifier.isLapsed_eq] at stays
      exact ⟨.modifier held ends, later ends stays⟩
  | boost held ends =>
      obtain ⟨held, stays⟩ := List.mem_filter.mp held
      exact ⟨.boost held ends, later (congrArg some ends) stays⟩
  | form held ends =>
      simp only [lapse, Option.filter_eq_some_iff] at held
      rw [Transformation.isLapsed_eq] at held
      exact ⟨.form held.1 ends, later ends held.2⟩

end Timed

/-! ## Marks -/

/-- Something that an action leaves on an entity; of what can be there more than once, how often. -/
inductive Mark (α : Type) where
  | modifier (m : StatModifier α) (copies : Nat)
  | boost (b : Boost α) (copies : Nat)
  | status (name : String) (entry : StatusEntry)
  | form (typeName : String) (t : Transformation)

namespace Mark

def expiresAt : Mark α → Option Nat
  | modifier m _ => m.expiresAt
  | boost b _ => some b.expiresAt
  | status _ entry => entry.expiresAt
  | form _ t => t.expiresAt

def On (x : Timed α) : Mark α → Prop
  | modifier m copies => (List.replicate copies m).Sublist x.modifiers
  | boost b copies => (List.replicate copies b).Sublist x.boosts
  | status name entry => x.statuses.get? name = some entry
  | form typeName t => x.typeName = typeName ∧ x.form = some t

def Off (x : Timed α) : Mark α → Prop
  | modifier m _ => m ∉ x.modifiers
  | boost b _ => b ∉ x.boosts
  | status name _ => x.statuses.get? name = none
  | form _ t => x.typeName = t.formerType ∧ x.form = none

/-- The mark is not on the entity. -/
def Absent (x : Timed α) : Mark α → Prop
  | modifier m _ => m ∉ x.modifiers
  | boost b _ => b ∉ x.boosts
  | status name _ => x.statuses.get? name = none
  | form _ _ => x.form = none

/-- The entity with the mark was replaced. The new one may have an equal change, but no longer than until its
end. -/
def Gone (tick : Nat) (x : Timed α) : Mark α → Prop
  | modifier m _ => ∀ t, m.expiresAt = some t → t ≤ tick → m ∉ x.modifiers
  | boost b _ => b.expiresAt ≤ tick → b ∉ x.boosts
  | status name _ => x.statuses.get? name = none
  | form _ _ => x.form = none

/-- The action sets the stat of the mark, applies or removes its status, or transforms. -/
def Meddles : Mark α → Action α → Prop
  | modifier m _, .setStat stat _ => stat = m.stat
  | boost _ _, .setStat stat _ => stat = "maxHealth"
  | status name _, .applyStatus other _ _ => other = name
  | status name _, .removeStatus other _ => other = name
  | form _ _, .transformEntity _ _ => True
  | _, _ => False

/-- A mark that an action leaves: what it adds to a list, a status that was not there, or a form. -/
inductive LeftBy (x x' : Timed α) : Action α → Mark α → Prop where
  | modifier {stat amount duration m copies} (were : (List.replicate copies m).Sublist x.modifiers)
      (added : x'.modifiers = x.modifiers ++ [m]) :
      LeftBy x x' (.modifyStat stat amount duration) (.modifier m (copies + 1))
  | boost {stat amount duration b copies} (were : (List.replicate copies b).Sublist x.boosts)
      (added : x'.boosts = x.boosts ++ [b]) :
      LeftBy x x' (.modifyStat stat amount duration) (.boost b (copies + 1))
  | status {name duration e entry} (new : x.statuses.get? name = none)
      (applied : x'.statuses.get? name = some entry) :
      LeftBy x x' (.applyStatus name duration e) (.status name entry)
  | form {toType duration t} (transformed : x'.form = some t) :
      LeftBy x x' (.transformEntity toType duration) (.form toType t)

/-- Whether a mark is as it is to be at a tick: there before its end, and gone from then on. -/
structure Stands (mark : Mark α) (tick : Nat) (x : Timed α) : Prop where
  before : (∀ t, mark.expiresAt = some t → tick < t) → mark.On x
  after : ∀ t, mark.expiresAt = some t → t ≤ tick → mark.Off x

variable {x x' : Timed α} {mark : Mark α} {action : Action α} {expiresAt : Option Nat} {tick : Nat}

theorem get?_of_spared {name : String} {entry : StatusEntry} (treated : x.Treated action expiresAt x')
    (apart : ¬ (status name entry : Mark α).Meddles action) :
    x'.statuses.get? name = x.statuses.get? name := by
  cases treated with
  | apply => exact Statuses.get?_apply_of_ne _ _ _ apart
  | remove => exact Statuses.get?_remove_of_ne _ _ apart
  | _ => rfl

theorem form_of_spared {typeName : String} {t : Transformation} (treated : x.Treated action expiresAt x')
    (apart : ¬ (form typeName t : Mark α).Meddles action) :
    x'.typeName = x.typeName ∧ x'.form = x.form := by
  cases treated with
  | transform => exact absurd trivial apart
  | _ => exact ⟨rfl, rfl⟩

/-- A mark stays on an entity if the action is not about it. -/
theorem On.treated (on : mark.On x) (treated : x.Treated action expiresAt x')
    (apart : ¬ mark.Meddles action) : mark.On x' := by
  cases mark with
  | modifier m copies =>
      cases treated with
      | change => exact on.trans (List.sublist_append_left ..)
      | @setBase stat =>
          have kept := on.filter fun m' => m'.stat != stat
          rwa [List.filter_replicate_of_pos (by simpa using Ne.symm apart)] at kept
      | _ => exact on
  | boost b copies =>
      cases treated with
      | raise => exact on.trans (List.sublist_append_left ..)
      | setMax => exact absurd rfl apart
      | _ => exact on
  | status name entry => exact (get?_of_spared treated apart).trans on
  | form typeName t =>
      obtain ⟨sameType, sameForm⟩ := form_of_spared treated apart
      exact ⟨sameType.trans on.1, sameForm.trans on.2⟩

/-- A mark that is gone stays gone, unless an action leaves something with the same expiry. -/
theorem Off.treated (off : mark.Off x) (treated : x.Treated action expiresAt x')
    (apart : ¬ mark.Meddles action) (other : ∀ t, mark.expiresAt = some t → expiresAt ≠ some t) :
    mark.Off x' := by
  cases mark with
  | modifier m copies =>
      intro listed
      rcases treated.mem_modifiers listed with old | ⟨t, ends, new⟩
      · exact off old
      · exact other t ends new
  | boost b copies =>
      intro listed
      rcases treated.mem_boosts listed with old | new
      · exact off old
      · exact other _ rfl new
  | status name entry => exact (get?_of_spared treated apart).trans off
  | form typeName t =>
      obtain ⟨sameType, sameForm⟩ := form_of_spared treated apart
      exact ⟨sameType.trans off.1, sameForm.trans off.2⟩

theorem On.lapse (on : mark.On x) (before : ∀ t, mark.expiresAt = some t → tick < t) :
    mark.On (x.lapse tick) := by
  have ahead : mark.expiresAt.any (· ≤ tick) = false := by
    cases ends : mark.expiresAt with
    | none => rfl
    | some t => simpa using before t ends
  cases mark with
  | modifier m copies =>
      have stays : m.isLapsed tick = false := (m.isLapsed_eq tick).trans ahead
      have all : (List.replicate copies m).filter (fun m => !m.isLapsed tick) =
        List.replicate copies m := List.filter_replicate_of_pos (by simp [stays])
      have kept := List.Sublist.filter (fun m => !m.isLapsed tick) on
      rwa [all] at kept
  | boost b copies =>
      have all : (List.replicate copies b).filter (fun b => !decide (b.expiresAt ≤ tick)) =
        List.replicate copies b := List.filter_replicate_of_pos (by simpa using before _ rfl)
      have kept := List.Sublist.filter (fun b => !decide (b.expiresAt ≤ tick)) on
      rwa [all] at kept
  | status name entry =>
      have stays : Statuses.isLapsed entry tick = false :=
        (Statuses.isLapsed_eq entry tick).trans ahead
      refine (Statuses.get?_expire ..).trans (Option.filter_eq_some_iff.mpr ⟨on, ?_⟩)
      rw [stays]
      rfl
  | form typeName t =>
      obtain ⟨typeName, form⟩ := on
      have stays : t.isLapsed tick = false := (t.isLapsed_eq tick).trans ahead
      refine ⟨?_, ?_⟩
      · simpa [Timed.lapse, form, Option.filter, stays] using typeName
      · simp [Timed.lapse, form, Option.filter, stays]

theorem Off.lapse (off : mark.Off x) (tick : Nat) : mark.Off (x.lapse tick) := by
  cases mark with
  | modifier m copies => exact fun listed => off (List.mem_of_mem_filter listed)
  | boost b copies => exact fun listed => off (List.mem_of_mem_filter listed)
  | status name entry =>
      refine (Statuses.get?_expire ..).trans ?_
      rw [show x.statuses.get? name = none from off]
      rfl
  | form typeName t =>
      obtain ⟨typeName, form⟩ := off
      refine ⟨?_, ?_⟩
      · simpa [Timed.lapse, form] using typeName
      · simp [Timed.lapse, form]

theorem On.off_lapse (on : mark.On x) {t : Nat} (ends : mark.expiresAt = some t) (reached : t ≤ tick) :
    mark.Off (x.lapse tick) := by
  have done : mark.expiresAt.any (· ≤ tick) = true := by
    rw [ends]
    simpa using reached
  cases mark with
  | modifier m copies =>
      intro listed
      have stays := (List.mem_filter.mp listed).2
      rw [(m.isLapsed_eq tick).trans done] at stays
      cases stays
  | boost b copies =>
      intro listed
      cases ends
      simpa [reached] using (List.mem_filter.mp listed).2
  | status name entry =>
      have closed : Statuses.isLapsed entry tick = true :=
        (Statuses.isLapsed_eq entry tick).trans done
      refine (Statuses.get?_expire ..).trans ?_
      rw [show x.statuses.get? name = some entry from on]
      simp [Option.filter, closed]
  | form typeName t =>
      obtain ⟨typeName, form⟩ := on
      have closed : t.isLapsed tick = true := (t.isLapsed_eq tick).trans done
      refine ⟨?_, ?_⟩
      · simp [Timed.lapse, form, Option.filter, closed]
      · simp [Timed.lapse, form, Option.filter, closed]

theorem ne_append_singleton {γ : Type} {xs : List γ} {y : γ} : xs ≠ xs ++ [y] := by
  intro same
  have longer := congrArg List.length same
  simp at longer

theorem LeftBy.on (left : LeftBy x x' action mark) (treated : x.Treated action expiresAt x') :
    mark.On x' ∧ mark.expiresAt = expiresAt := by
  cases left with
  | @modifier stat _ _ m copies were added =>
      refine ⟨?_, ?_⟩
      · change (List.replicate (copies + 1) m).Sublist x'.modifiers
        rw [added, List.replicate_succ']
        exact were.append (List.Sublist.refl [m])
      · cases treated with
        | change =>
            cases List.singleton_injective (List.append_cancel_left added)
            rfl
        | alike | raise => exact absurd added ne_append_singleton
  | @boost stat _ _ b copies were added =>
      refine ⟨?_, ?_⟩
      · change (List.replicate (copies + 1) b).Sublist x'.boosts
        rw [added, List.replicate_succ']
        exact were.append (List.Sublist.refl [b])
      · cases treated with
        | raise =>
            cases List.singleton_injective (List.append_cancel_left added)
            rfl
        | alike | change => exact absurd added ne_append_singleton
  | status new applied =>
      refine ⟨applied, ?_⟩
      cases treated with
      | alike => cases new.symm.trans applied
      | apply =>
          rw [Statuses.get?_apply, new] at applied
          cases applied
          rfl
  | form transformed =>
      cases treated with
      | alike _ other => exact absurd rfl (other _ _)
      | transform =>
          cases transformed
          exact ⟨⟨rfl, rfl⟩, rfl⟩

theorem Stands.treated (stands : mark.Stands tick x) (treated : x.Treated action expiresAt x')
    (apart : ¬ mark.Meddles action) (later : ∀ t, expiresAt = some t → tick < t) :
    mark.Stands tick x' where
  before ahead := (stands.before ahead).treated treated apart
  after t ends reached := (stands.after t ends reached).treated treated apart fun t' ends' same => by
    cases ends.symm.trans ends'
    exact absurd (later t same) (Nat.not_lt.mpr reached)

theorem Stands.lapse (stands : mark.Stands tick x) : mark.Stands (tick + 1) (x.lapse (tick + 1)) where
  before ahead := (stands.before fun t ends => Nat.lt_of_succ_lt (ahead t ends)).lapse ahead
  after t ends reached := by
    by_cases open_ : tick < t
    · refine (stands.before fun t' ends' => ?_).off_lapse ends reached
      cases ends.symm.trans ends'
      exact open_
    · exact (stands.after t ends (Nat.not_lt.mp open_)).lapse _

/-! ### Marks on what is replaced -/

theorem Gone.of_isBlank (blank : x.IsBlank) : mark.Gone tick x := by
  cases mark with
  | modifier m copies =>
      intro t ends reached listed
      exact absurd (blank.modifiers ▸ listed) List.not_mem_nil
  | boost b copies => exact fun _ listed => absurd (blank.boosts ▸ listed) List.not_mem_nil
  | status name entry => exact blank.statuses name
  | form typeName t => exact blank.form

theorem Gone.absent (gone : mark.Gone tick x) {t : Nat} (ends : mark.expiresAt = some t)
    (reached : t ≤ tick) : mark.Absent x := by
  cases mark with
  | modifier m copies => exact gone t ends reached
  | boost b copies =>
      cases ends
      exact gone reached
  | status name entry => exact gone
  | form typeName t => exact gone

theorem Gone.treated (gone : mark.Gone tick x) (treated : x.Treated action expiresAt x')
    (apart : ¬ mark.Meddles action) (later : ∀ t, expiresAt = some t → tick < t) :
    mark.Gone tick x' := by
  cases mark with
  | modifier m copies =>
      intro t ends reached listed
      rcases treated.mem_modifiers listed with old | ⟨t', ends', new⟩
      · exact gone t ends reached old
      · cases ends.symm.trans ends'
        exact absurd (later t new) (Nat.not_lt.mpr reached)
  | boost b copies =>
      intro reached listed
      rcases treated.mem_boosts listed with old | new
      · exact gone reached old
      · exact absurd (later _ new) (Nat.not_lt.mpr reached)
  | status name entry => exact (get?_of_spared treated apart).trans gone
  | form typeName t => exact (form_of_spared treated apart).2.trans gone

theorem Gone.lapse (gone : mark.Gone tick x) : mark.Gone (tick + 1) (x.lapse (tick + 1)) := by
  cases mark with
  | modifier m copies =>
      intro t ends reached listed
      have stays := (List.mem_filter.mp listed).2
      rw [m.isLapsed_eq, ends] at stays
      simp [reached] at stays
  | boost b copies =>
      intro reached listed
      simpa [reached] using (List.mem_filter.mp listed).2
  | status name entry =>
      refine (Statuses.get?_expire ..).trans ?_
      rw [show x.statuses.get? name = none from gone]
      rfl
  | form typeName t =>
      change x.form.filter _ = none
      rw [show x.form = none from gone]
      rfl

end Mark

end Grimoire
