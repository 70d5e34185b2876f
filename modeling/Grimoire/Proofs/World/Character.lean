import Grimoire.Proofs.World.Advance
import Grimoire.Proofs.World.Sheets

/-! # The character of an entity

What an entity can do and what it is: its stats, its type, and the form it goes back to.  Three kinds of
deeds change a character: one changes a stat, one sets a stat, and one turns the entity into another type.
Time changes it too, by `Character.lapse`.  Nothing else does, and in particular nothing that is written
to the other slots of the entity.
-/

namespace Grimoire

variable {α β : Type}

/-- Something that is done to the character of an entity. -/
inductive Deed (α : Type) where
  | change (stat : String) (amount : α) (expiresAt : Option Nat)
  | set (stat : String) (value : α)
  | transform (toType : String) (expiresAt : Option Nat)
  deriving DecidableEq, Repr

namespace Deed

def expiresAt? : Deed α → Option Nat
  | change _ _ expiresAt | transform _ expiresAt => expiresAt
  | set .. => none

def stat? : Deed α → Option String
  | change stat .. | set stat _ => some stat
  | transform .. => none

end Deed

/-- Something that was done to an entity at a tick. -/
structure Entry (α : Type) where
  tick : Nat
  deed : Deed α
  deriving DecidableEq, Repr

/-- Whether what was done lasts at a tick: it has no end, or its end is still to come.  At the tick when
it was done nothing has ended of it yet, wherever its end was put. -/
def Entry.lasts (entry : Entry α) (now : Nat) : Bool :=
  entry.tick == now || isAhead entry.deed.expiresAt? now

namespace Entry

variable {entry : Entry α} {now later : Nat}

theorem lasts_same (now : Nat) (d : Deed α) : (⟨now, d⟩ : Entry α).lasts now = true := by
  simp [lasts]

theorem lasts_later (past : entry.tick < later) :
    entry.lasts later = isAhead entry.deed.expiresAt? later := by
  have apart : (entry.tick == later) = false := beq_false_of_ne past.ne
  rw [lasts, apart, Bool.false_or]

theorem ended_later (ended : entry.lasts now = false) (past : entry.tick ≤ now) (le : now ≤ later) :
    entry.lasts later = false := by
  unfold lasts at ended ⊢
  obtain ⟨apart, reached⟩ := Bool.or_eq_false_iff.mp ended
  have tick := ne_of_beq_false apart
  cases ends : entry.deed.expiresAt? with
  | none => simp [isAhead, ends] at reached
  | some t =>
      have least : t ≤ now := by simpa [isAhead, ends] using reached
      simp only [isAhead, Option.all_some, Bool.or_eq_false_iff, beq_eq_false_iff_ne, decide_eq_false_iff_not]
      omega

theorem lasts_iff (ahead : ∀ t, entry.deed.expiresAt? = some t → entry.tick < t) :
    entry.lasts now = true ↔ ∀ t, entry.deed.expiresAt? = some t → now < t := by
  unfold lasts isAhead
  simp only [Bool.or_eq_true, beq_iff_eq, Option.all_eq_true, decide_eq_true_eq]
  constructor
  · rintro (rfl | still)
    · exact ahead
    · exact still
  · exact Or.inr

end Entry

/-- The part of an entity that deeds are done to. -/
structure Character (α : Type) where
  stats : StatBlock α
  typeName : String
  form : Option Transformation

def Entity.character (e : Entity α) : Character α :=
  ⟨e.statBlock, e.typeName, e.get? .transformed⟩

namespace Character

/-- The type that a character is turned back into when it loses its form. -/
def former (x : Character α) : String := (x.form.map (·.formerType)).getD x.typeName

def lapse (x : Character α) (tick : Nat) : Character α :=
  let reverts := (x.form.map (·.isLapsed tick)).getD false
  { stats := (x.stats.expire tick).1
    typeName := if reverts then x.former else x.typeName
    form := if reverts then none else x.form }

variable [Quantity α]

def after (x : Character α) : Deed α → Character α
  | .change stat amount expiresAt => { x with stats := x.stats.change stat amount expiresAt }
  | .set stat value => { x with stats := x.stats.setBase stat value }
  | .transform toType expiresAt => { x with typeName := toType, form := some ⟨x.former, expiresAt⟩ }

end Character

/-! ## Characters of entities -/

namespace Entity

def IsPool (stat : String) : Prop := stat = "health" ∨ stat = "maxHealth"

instance (stat : String) : Decidable (IsPool stat) := inferInstanceAs (Decidable (_ ∨ _))

theorem not_isPool {stat : String} (pool : stat ≠ "health") (maximum : stat ≠ "maxHealth") :
    ¬ IsPool stat := not_or.mpr ⟨pool, maximum⟩

variable (e : Entity α)

theorem statBlock_put (block : StatBlock α) : (e.put .stats block).statBlock = block := by
  unfold statBlock
  rw [get?_put]
  rfl

theorem character_put_of_ne (slot : Slot α β) (x : β)
    (hidden : slot.name ∉ ["stats", "transformed"]) : (e.put slot x).character = e.character := by
  simp only [List.mem_cons, List.not_mem_nil, or_false, not_or] at hidden
  obtain ⟨stats, transformed⟩ := hidden
  unfold character statBlock
  rw [get?_put_of_ne e slot .stats x stats, get?_put_of_ne e slot .transformed x transformed]
  rfl

theorem character_put_stats (block : StatBlock α) :
    (e.put .stats block).character = { e.character with stats := block } := by
  unfold character
  rw [statBlock_put, get?_put_of_ne e .stats .transformed block (by simp)]
  rfl

theorem character_lapse [Quantity α] (tick : Nat) :
    (e.lapse tick).character = e.character.lapse tick := by
  have stats : (e.lapse tick).statBlock = (e.statBlock.expire tick).1 := by
    unfold statBlock
    rw [get?_lapse_stats]
    cases e.get? .stats <;> rfl
  unfold character Character.lapse Character.former
  rw [stats]
  cases held : e.get? .transformed with
  | none =>
      obtain ⟨typeName, form⟩ := e.lapse_stays tick fun t same => by cases held.symm.trans same
      rw [typeName, form, held]
      rfl
  | some t =>
      cases ends : t.isLapsed tick with
      | false =>
          obtain ⟨typeName, form⟩ := e.lapse_stays tick fun t' same => by
            cases held.symm.trans same
            exact ends
          rw [typeName, form, held]
          simp [ends]
      | true =>
          obtain ⟨typeName, form⟩ := e.lapse_reverts tick held ends
          rw [typeName, form]
          simp [ends]

variable [Quantity α]

def does (e : Entity α) : Deed α → Entity α
  | .change stat amount expiresAt => e.put .stats (e.statBlock.change stat amount expiresAt)
  | .set stat value => e.put .stats (e.statBlock.setBase stat value)
  | .transform toType expiresAt => e.transform toType expiresAt

theorem does_id (d : Deed α) : (e.does d).id = e.id := by cases d <;> rfl

theorem character_does (d : Deed α) : (e.does d).character = e.character.after d := by
  cases d with
  | change => exact e.character_put_stats _
  | set => exact e.character_put_stats _
  | transform toType expiresAt =>
      unfold does transform character statBlock
      rw [get?_put, get?_put_of_ne _ .transformed .stats _ (by simp)]
      rfl

theorem get?_does_health (d : Deed α) : (e.does d).get? .health = e.get? .health := by
  cases d with
  | change => exact e.get?_put_of_ne .stats .health _ (by simp)
  | set => exact e.get?_put_of_ne .stats .health _ (by simp)
  | transform => exact Entity.get?_put_of_ne _ .transformed .health _ (by simp)

theorem statValue_eq [Quantity.Neutral α] {stat : String} (plain : ¬ IsPool stat) :
    e.statValue stat = e.statBlock.effective stat := by
  obtain ⟨pool, maximum⟩ := not_or.mp plain
  rw [← e.stats_sheet, statValue, if_neg pool, if_neg maximum]
  rfl

/-- What is done to one stat leaves all others alone, and the pool. -/
theorem statValue_does_of_ne [Quantity.Neutral α] {d : Deed α} {stat other : String}
    (about : d.stat? = some stat) (apart : stat ≠ other) :
    (e.does d).statValue other = e.statValue other := by
  have rest : (e.does d).sheet.stats other = e.sheet.stats other := by
    cases d with
    | change stat' amount expiresAt =>
        cases about
        rw [does, sheet_put_stats, e.stats_sheet]
        exact e.statBlock.effective_change_of_ne amount expiresAt apart
    | set stat' value =>
        cases about
        rw [does, sheet_put_stats, e.stats_sheet]
        exact e.statBlock.effective_setBase_of_ne value apart
    | transform => cases about
  unfold statValue
  rw [e.get?_does_health]
  split
  · rfl
  · split
    · rfl
    · exact rest

end Entity

/-! ## Worlds -/

namespace World

variable {w w₁ w' : World α} {target id : EntityId} {deed : Option (Deed α)}

/-- No entity was given the number between the two worlds. -/
def Spares (id : EntityId) (w w' : World α) : Prop := id < w.nextId ∨ w'.nextId ≤ id

variable [Quantity α]

/-- What becomes of an entity when a deed is done to it, or none is. -/
inductive Undergoes : Option (Deed α) → Entity α → Entity α → Prop where
  | nothing {e e'} (id : e'.id = e.id) (character : e'.character = e.character) : Undergoes none e e'
  | deed (d e) : Undergoes (some d) e (e.does d)

/-- What becomes of a world when a deed is done to a target, or none is. -/
structure Does (deed : Option (Deed α)) (target : EntityId) (w w' : World α) : Prop where
  tick : w'.tick = w.tick
  nextId : w.nextId ≤ w'.nextId
  still : ∀ {d}, deed = some d → w'.nextId = w.nextId
  kept : ∀ {id e}, w.Spares id w' → w.entity? id = some e →
    ∃ e', w'.entity? id = some e' ∧ Undergoes (if id = target then deed else none) e e'

namespace Undergoes

variable {e e' : Entity α}

theorem refl (e : Entity α) : Undergoes none e e := .nothing rfl rfl

theorem id_eq (h : Undergoes deed e e') : e'.id = e.id := by
  cases h with
  | nothing id => exact id
  | deed d => exact e.does_id d

theorem character_eq (h : Undergoes deed e e') :
    e'.character = deed.toList.foldl Character.after e.character := by
  cases h with
  | nothing id character => exact character
  | deed d => exact e.character_does d

end Undergoes

namespace Does

theorem of_eq (entities : w'.entities = w.entities) (nextId : w'.nextId = w.nextId)
    (tick : w'.tick = w.tick) : w.Does none target w' := by
  refine ⟨tick, nextId.ge, nofun, fun {id e} _ found => ⟨e, ?_, ?_⟩⟩
  · unfold entity?
    rw [entities]
    exact found
  · rw [ite_self]
    exact .refl e

theorem refl (w : World α) : w.Does none target w := .of_eq rfl rfl rfl

theorem trans (h : w.Does none target w₁) (h' : w₁.Does none target w') : w.Does none target w' where
  tick := h'.tick.trans h.tick
  nextId := h.nextId.trans h'.nextId
  still := nofun
  kept spared found := by
    obtain ⟨e₁, found, first⟩ := h.kept (spared.imp_right h'.nextId.trans) found
    obtain ⟨e', found, second⟩ := h'.kept (spared.imp_left h.nextId.trans_lt') found
    rw [ite_self] at first second ⊢
    exact ⟨e', found, .nothing (second.id_eq.trans first.id_eq)
      (second.character_eq.trans first.character_eq)⟩

theorem replace {e e' : Entity α} (there : w.entity? target = some e)
    (undergoes : Undergoes deed e e') : w.Does deed target (w.place target e') where
  tick := rfl
  nextId := Nat.le_refl _
  still _ := rfl
  kept {id e₁} _ found := by
    rcases kept_by_place target e' found with ⟨rfl, placed⟩ | ⟨here, still⟩
    · cases there.symm.trans found
      rw [if_pos rfl]
      exact ⟨e', placed, undergoes⟩
    · rw [if_neg (Ne.symm here)]
      exact ⟨e₁, still, .refl e₁⟩

theorem write {e : Entity α} {slot : Slot α β} {x : β} (there : w.entity? id = some e)
    (same : (e.put slot x).character = e.character) :
    w.Does none target (w.place id (e.put slot x)) where
  tick := rfl
  nextId := Nat.le_refl _
  still _ := rfl
  kept {id' e₁} _ found := by
    rw [ite_self]
    rcases kept_by_place id (e.put slot x) found with ⟨rfl, placed⟩ | ⟨-, still⟩
    · cases there.symm.trans found
      exact ⟨_, placed, .nothing rfl same⟩
    · exact ⟨e₁, still, .refl e₁⟩

theorem absent (nobody : w.entity? target = none) : w.Does deed target w where
  tick := rfl
  nextId := Nat.le_refl _
  still _ := rfl
  kept {id e} _ found := by
    have other : id ≠ target := by
      rintro rfl
      cases nobody.symm.trans found
    rw [if_neg other]
    exact ⟨e, found, .refl e⟩

theorem spawn (w : World α) (build : EntityId → Entity α) : w.Does none target (w.spawn build).2 where
  tick := rfl
  nextId := Nat.le_succ _
  still := nofun
  kept {id e} spared found := by
    rw [ite_self]
    refine ⟨e, (entity?_spawn_of_ne _ _ ?_).trans found, .refl e⟩
    rintro rfl
    rcases spared with below | above
    · exact Nat.lt_irrefl _ below
    · exact Nat.not_succ_le_self _ above

theorem emit {event : Event α} (room : w.emit? event = some w') : w.Does none target w' := by
  unfold World.emit? at room
  split at room
  · cases room
  · cases room
    exact .of_eq rfl rfl rfl

end Does

end World

end Grimoire
