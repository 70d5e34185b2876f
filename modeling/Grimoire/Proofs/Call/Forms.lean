import Grimoire.Proofs.Call.Annals

/-! # Forms over the course of a world

A transformed entity can be transformed again, and it returns to its first type when the last
transformation expires. So its type and its record are determined by the last transformation in its
annals and by the type before the first.
-/

namespace Grimoire

open Quantity (isNaN)

variable {α : Type}

/-! ## The last transformation -/

def Deed.isTransform : Deed α → Bool
  | transform .. => true
  | _ => false

def Entry.lastForm? (entries : List (Entry α)) : Option (Entry α) :=
  (entries.filter (·.deed.isTransform)).getLast?

theorem Entry.lastForm?_snoc (entries : List (Entry α)) (entry : Entry α) :
    lastForm? (entries ++ [entry]) =
      if entry.deed.isTransform then some entry else lastForm? entries := by
  unfold lastForm?
  cases turns : entry.deed.isTransform <;> simp [List.filter_append, turns]

theorem Entry.mem_of_lastForm? {entries : List (Entry α)} {entry : Entry α}
    (last : lastForm? entries = some entry) : entry ∈ entries :=
  List.mem_of_mem_filter (List.mem_of_getLast? last)

/-! ## Ticks -/

namespace Character

theorem lapse_stays (x : Character α) (tick : Nat)
    (stays : ∀ t, x.form = some t → t.isLapsed tick = false) :
    (x.lapse tick).typeName = x.typeName ∧ (x.lapse tick).form = x.form := by
  unfold lapse
  cases held : x.form with
  | none => exact ⟨rfl, rfl⟩
  | some t => simp [stays t held]

theorem lapse_reverts {x : Character α} {tick : Nat} {t : Transformation} (held : x.form = some t)
    (ends : t.isLapsed tick = true) :
    (x.lapse tick).typeName = t.formerType ∧ (x.lapse tick).form = none := by
  simp [lapse, former, held, ends]

end Character

/-! ## Forms -/

/-- What a character looks like, whose first type is given, if some transformation was the last one.
While that one lasts, the character has its type, and a record of the first type and of when it is to end;
else it has its first type and no record. -/
inductive Character.Formed (first : String) (now : Nat) (x : Character α) : Option (Entry α) → Prop where
  | never (typeName : x.typeName = first) (form : x.form = none) : Formed first now x none
  | during {tick toType expiresAt}
      (lasts : (⟨tick, .transform toType expiresAt⟩ : Entry α).lasts now = true)
      (typeName : x.typeName = toType) (form : x.form = some ⟨first, expiresAt⟩) :
      Formed first now x (some ⟨tick, .transform toType expiresAt⟩)
  | ended {entry} (past : entry.lasts now = false) (typeName : x.typeName = first)
      (form : x.form = none) : Formed first now x (some entry)

namespace Character.Formed

variable {first : String} {now : Nat} {x : Character α} {last : Option (Entry α)}
  {entries : List (Entry α)}

/-- The first type is the one that a transformation is reverted to, however many there were. -/
theorem former (h : x.Formed first now last) : x.former = first := by
  unfold Character.former
  cases h with
  | never typeName form => rw [form]; exact typeName
  | during lasts typeName form => rw [form]; rfl
  | ended past typeName form => rw [form]; exact typeName

theorem congr {y : Character α} (h : x.Formed first now last) (typeName : y.typeName = x.typeName)
    (form : y.form = x.form) : y.Formed first now last := by
  cases h with
  | never typeName' form' => exact .never (typeName.trans typeName') (form.trans form')
  | during lasts typeName' form' => exact .during lasts (typeName.trans typeName') (form.trans form')
  | ended past typeName' form' => exact .ended past (typeName.trans typeName') (form.trans form')

theorem after [Quantity α] (h : x.Formed first now (Entry.lastForm? entries)) (d : Deed α) :
    (x.after d).Formed first now (Entry.lastForm? (entries ++ [⟨now, d⟩])) := by
  rw [Entry.lastForm?_snoc]
  cases d with
  | change | set => exact h.congr rfl rfl
  | transform toType expiresAt =>
      refine .during (Entry.lasts_same ..) rfl ?_
      rw [← h.former]
      rfl

theorem lapse (h : x.Formed first now last) (past : ∀ entry, last = some entry → entry.tick ≤ now) :
    (x.lapse (now + 1)).Formed first (now + 1) last := by
  cases h with
  | never typeName form =>
      obtain ⟨typeName', form'⟩ := x.lapse_stays (now + 1)
        fun t held => by cases form.symm.trans held
      exact .never (typeName'.trans typeName) (form'.trans form)
  | @during tick toType expiresAt lasts typeName form =>
      have later := Entry.lasts_later (Nat.lt_succ_of_le (past _ rfl))
      have ends := Transformation.isLapsed_eq_not_isAhead ⟨first, expiresAt⟩ (now + 1)
      cases still : isAhead expiresAt (now + 1) with
      | true =>
          obtain ⟨typeName', form'⟩ := x.lapse_stays (now + 1)
            fun t held => by
              cases form.symm.trans held
              rw [ends, still, Bool.not_true]
          exact .during (later.trans still) (typeName'.trans typeName) (form'.trans form)
      | false =>
          obtain ⟨typeName', form'⟩ := Character.lapse_reverts form (by rw [ends, still, Bool.not_false])
          exact .ended (later.trans still) typeName' form'
  | ended gone typeName form =>
      obtain ⟨typeName', form'⟩ := x.lapse_stays (now + 1)
        fun t held => by cases form.symm.trans held
      exact .ended (Entry.ended_later gone (past _ rfl) (Nat.le_succ now)) (typeName'.trans typeName)
        (form'.trans form)

end Character.Formed

/-! ## Worlds -/

variable [Scalar α]

namespace World

/-- Transformations end with a return to the first type.

While the last transformation lasts, the entity has the type it leads to, and its record holds the first
type and the expiry of that transformation. Otherwise the entity has its first type and no record. A
transformation without an expiry lasts for good. One with an expiry lasts at the tick when it is made,
and if the expiry is later, up to that tick; the expiry is later if the duration is a number and the
tick is not the largest one. -/
theorem form_follows [Scalar.RoundsUp α] {id : EntityId} {w w' : World α} {e : Entity α}
    {entries : List (Entry α)} (found : w.entity? id = some e) (bare : e.get? .transformed = none)
    (annals : w.Annals id entries w') (_inTime : w'.tick ≤ maxTick) :
    (∃ e', w'.entity? id = some e' ∧ e'.id = e.id ∧
      e'.character.Formed e.typeName w'.tick (Entry.lastForm? entries)) ∧
    (∀ entry ∈ entries, (∀ t, entry.deed.expiresAt? = some t → entry.tick < t) →
      (entry.lasts w'.tick = true ↔ ∀ t, entry.deed.expiresAt? = some t → w'.tick < t)) ∧
    ∀ (i : Interpreter α) (call : Call α) (clock : Clock) (n : Nat) (d : Deed α),
      (i.moment call w' clock n).deed? (i.cast call.caster w' clock) id = some d →
      ∃ action, i.Meets call w' clock n id action ∧
        ((∀ x, i.durationAt call w' clock n id action = some x → isNaN x = false) →
          w'.tick < maxTick → ∀ t, d.expiresAt? = some t → w'.tick < t) := by
  refine ⟨?_, fun entry _ ahead => Entry.lasts_iff ahead, fun i call clock n d does =>
    Interpreter.moment_ahead does⟩
  obtain ⟨-, e', found', same, formed⟩ := annals.story found
    (P := fun entries now x => x.Formed e.typeName now (Entry.lastForm? entries))
    (.never rfl bare) (fun d formed => formed.after d)
    (fun past formed => formed.lapse fun entry last => past entry (Entry.mem_of_lastForm? last))
  exact ⟨e', found', same, formed⟩

end World

/-! ## A goblin that is turned twice -/

namespace Interpreter

/-- The goblin of the duel is turned into a wolf for good, and then for a tick and a half into a skeleton. -/
def hexes : Call Float :=
  .request
    { caster := 1
      target := some 2
      dueTick := 0
      work := .operations 2
        [.act (.transformEntity "wolf" none),
         .act (.transformEntity "skeleton" (some (.number 1.5)))] }

def hexed : World Float := (novice.run hexes duel .still).2

theorem hexes_deeds : novice.deeds hexes duel .still 2 7 =
    [.transform "wolf" none, .transform "skeleton" (some 2)] := by
  decide +kernel

/-- After one tick the goblin is a skeleton, and after two ticks a goblin again. -/
theorem hexed_until :
    (∃ e, hexed.advance.2.entity? 2 = some e ∧ e.typeName = "skeleton" ∧
      e.get? .transformed = some ⟨"goblin", some 2⟩) ∧
    ∃ e, hexed.advance.2.advance.2.entity? 2 = some e ∧ e.typeName = "goblin" ∧
      e.get? .transformed = none := by
  obtain ⟨e, found, first, bare⟩ : ∃ e, duel.entity? 2 = some e ∧ e.typeName = "goblin" ∧
      e.get? .transformed = none := ⟨_, rfl, rfl, rfl⟩
  have annals := World.Annals.start.run novice hexes .still (n := 7) (by decide +kernel)
    (duel_numbered.spares found _)
  rw [hexes_deeds] at annals
  obtain ⟨⟨e₁, found₁, -, formed₁⟩, -⟩ := World.form_follows found bare annals.advance
    (by decide +kernel)
  obtain ⟨⟨e₂, found₂, -, formed₂⟩, -⟩ := World.form_follows found bare annals.advance.advance
    (by decide +kernel)
  rw [first] at formed₁ formed₂
  refine ⟨⟨e₁, found₁, ?_⟩, e₂, found₂, ?_⟩
  · cases formed₁ with
    | during lasts typeName form => exact ⟨typeName, form⟩
    | ended past => exact absurd past (by decide +kernel)
  · cases formed₂ with
    | during lasts => exact absurd lasts (by decide +kernel)
    | ended past typeName form => exact ⟨typeName, form⟩

def twilight : World Float := { duel with tick := maxTick }

def lastHex : Call Float :=
  .request
    { caster := 1
      target := some 2
      dueTick := 0
      work := .operations 2 [.act (.transformEntity "wolf" (some (.number 1)))] }

/-- At the largest tick the expiry is that tick, and the goblin is a wolf there. -/
theorem last_hex_stays :
    let w' := (novice.run lastHex twilight .still).2
    w'.tick = maxTick ∧ ∃ e, w'.entity? 2 = some e ∧ e.typeName = "wolf" ∧
      e.get? .transformed = some ⟨"goblin", some maxTick⟩ :=
  ⟨by decide +kernel, _, rfl, by decide +kernel, by decide +kernel⟩

end Interpreter

end Grimoire
