import Grimoire.Proofs.Call.Timed
import Grimoire.Proofs.Run.Deeds

/-! # The annals of an entity

A world goes on by calls and by ticks.  The annals of an entity list what calls have done to its character
by then, each deed with the tick when it was done.  The character of the entity is what the deeds and the
ticks between them make of it, so what deeds and ticks keep is true of it ever after.
-/

namespace Grimoire

open Run
open Quantity (isNaN)

variable {α : Type} [Scalar α]

/-! ## Steps -/

namespace Moment

/-- What the step that follows a moment does to the character of an entity. -/
def deed? (c : Cast α) (id : EntityId) (m : Moment α) : Option (Deed α) :=
  match m.fault, m.agenda, (c.step m).fault with
  | none, .dispatch target (.act action) :: _, none =>
      if id = target then c.deed? target action m.state else none
  | _, _, _ => none

variable {c : Cast α} {m : Moment α}

theorem of_deed? {id : EntityId} {d : Deed α} (does : m.deed? c id = some d) :
    m.fault = none ∧ ∃ action rest, m.agenda = .dispatch id (.act action) :: rest ∧
      c.deed? id action m.state = some d := by
  unfold deed? at does
  split at does
  · next target action rest running agenda done =>
      split at does
      · next same =>
          subst same
          exact ⟨running, action, rest, agenda, does⟩
      · cases does
  · cases does

theorem step_does (c : Cast α) (m : Moment α) :
    ∃ target deed, m.state.world.Does deed target (c.step m).state.world ∧
      ∀ id, m.deed? c id = if id = target then deed else none := by
  have idle (target : EntityId) (world : (c.step m).state.world = m.state.world)
      (nothing : ∀ id, m.deed? c id = none) : ∃ target deed,
        m.state.world.Does deed target (c.step m).state.world ∧
          ∀ id, m.deed? c id = if id = target then deed else none := by
    refine ⟨target, none, ?_, fun id => ?_⟩
    · rw [world]
      exact .refl _
    · rw [ite_self]
      exact nothing id
  by_cases acting : ∃ target action rest, m.agenda = .dispatch target (.act action) :: rest ∧
      m.fault = none
  · obtain ⟨target, action, rest, agenda, running⟩ := acting
    obtain ⟨_, _, s⟩ := m
    subst agenda running
    have does := c.does_perform target action s
    cases performed : c.perform target action s with
    | ok x s' =>
        have unfolds : (Pending.dispatch target (.act action)).unfold c s = .ok [] s' :=
          bind_ok performed
        have stepped := Cast.step_ok rest unfolds
        obtain ⟨s₁, drawn, world⟩ := does.ok performed
        rw [drawn.world] at world
        refine ⟨target, c.deed? target action s, ?_, fun id => ?_⟩
        · rw [stepped]
          exact world
        · simp only [deed?, stepped]
    | error fault s' =>
        have unfolds : (Pending.dispatch target (.act action)).unfold c s = .error fault s' :=
          bind_error performed
        have stepped := Cast.step_error rest unfolds
        refine idle target ?_ fun id => ?_
        · rw [stepped]
          exact (does.error performed).1.world
        · simp only [deed?, stepped]
  · refine idle 0 ?_ fun id => Option.eq_none_iff_forall_ne_some.mpr fun d does => ?_
    · cases Cast.acts_of_transition (c.step_transition m) with
      | rests alike => exact alike.world
      | strikes agenda running => exact absurd ⟨_, _, _, agenda, running⟩ acting
    · obtain ⟨running, action, rest, agenda, -⟩ := of_deed? does
      exact acting ⟨id, action, rest, agenda, running⟩

end Moment

/-! ## Calls -/

namespace Interpreter

variable (i : Interpreter α) (call : Call α) (w : World α) (clock : Clock) (id : EntityId) (n : Nat)

/-- What the first steps of a call do to the character of an entity, in order. -/
def deeds : List (Deed α) :=
  (List.range n).filterMap fun k => (i.moment call w clock k).deed? (i.cast call.caster w clock) id

theorem deeds_succ :
    i.deeds call w clock id (n + 1) = i.deeds call w clock id n ++
      ((i.moment call w clock n).deed? (i.cast call.caster w clock) id).toList := by
  unfold deeds
  rw [List.range_succ, List.filterMap_append]
  cases does : (i.moment call w clock n).deed? (i.cast call.caster w clock) id <;> simp [does]

theorem mem_deeds {d : Deed α} : d ∈ i.deeds call w clock id n ↔
    ∃ k < n, (i.moment call w clock k).deed? (i.cast call.caster w clock) id = some d := by
  simp only [deeds, List.mem_filterMap, List.mem_range]

variable {i call w clock id n}

theorem moment_nextId : w.nextId ≤ (i.moment call w clock n).state.world.nextId := by
  induction n with
  | zero => exact (congrArg World.nextId moment_zero_world).ge
  | succ n ih =>
      obtain ⟨target, deed, does, -⟩ :=
        Moment.step_does (i.cast call.caster w clock) (i.moment call w clock n)
      exact ih.trans does.nextId

theorem moment_undergoes {e : Entity α}
    (spared : (i.moment call w clock n).state.world.Spares id
      (i.moment call w clock (n + 1)).state.world)
    (found : (i.moment call w clock n).state.world.entity? id = some e) :
    ∃ e', (i.moment call w clock (n + 1)).state.world.entity? id = some e' ∧
      World.Undergoes ((i.moment call w clock n).deed? (i.cast call.caster w clock) id) e e' := by
  obtain ⟨target, deed, does, same⟩ :=
    Moment.step_does (i.cast call.caster w clock) (i.moment call w clock n)
  rw [same]
  exact does.kept spared found

theorem moment_does {e : Entity α} {d : Deed α}
    (does : (i.moment call w clock n).deed? (i.cast call.caster w clock) id = some d)
    (found : (i.moment call w clock n).state.world.entity? id = some e) :
    (i.moment call w clock (n + 1)).state.world.entity? id = some (e.does d) := by
  obtain ⟨target, deed, done, same⟩ :=
    Moment.step_does (i.cast call.caster w clock) (i.moment call w clock n)
  rw [same] at does
  split at does
  · have spared := (lt_or_ge id (i.moment call w clock n).state.world.nextId).imp_right
      (done.still does).le.trans
    obtain ⟨e', found', undergoes⟩ := moment_undergoes spared found
    rw [same, if_pos ‹_›, does] at undergoes
    cases undergoes
    exact found'
  · cases does

theorem moment_character {e : Entity α} (spared : w.Spares id (i.moment call w clock n).state.world)
    (found : w.entity? id = some e) :
    ∃ e', (i.moment call w clock n).state.world.entity? id = some e' ∧ e'.id = e.id ∧
      e'.character = (i.deeds call w clock id n).foldl Character.after e.character := by
  induction n with
  | zero => exact ⟨e, by rw [moment_zero_world]; exact found, rfl, rfl⟩
  | succ n ih =>
      obtain ⟨target, deed, does, -⟩ :=
        Moment.step_does (i.cast call.caster w clock) (i.moment call w clock n)
      obtain ⟨e₁, found₁, id₁, character⟩ := ih (spared.imp_right does.nextId.trans)
      obtain ⟨e', found', undergoes⟩ :=
        moment_undergoes (spared.imp_left moment_nextId.trans_lt') found₁
      refine ⟨e', found', undergoes.id_eq.trans id₁, ?_⟩
      rw [undergoes.character_eq, character, deeds_succ, List.foldl_append]

/-- A deed is done by an action that the call comes to, and ends later than the call if the duration of the
action is a number and there is a tick left. -/
theorem moment_ahead [Scalar.RoundsUp α] {d : Deed α}
    (does : (i.moment call w clock n).deed? (i.cast call.caster w clock) id = some d) :
    ∃ action, i.Meets call w clock n id action ∧
      ((∀ x, i.durationAt call w clock n id action = some x → isNaN x = false) → w.tick < maxTick →
        ∀ t, d.expiresAt? = some t → w.tick < t) := by
  obtain ⟨running, action, rest, agenda, asked⟩ := Moment.of_deed? does
  obtain ⟨least, expiresAt⟩ := Cast.expiresAt_of_deed? asked
  refine ⟨action, ⟨running, rest, agenda⟩, fun number room t ends => ?_⟩
  exact Cast.lt_endOf (c := i.cast call.caster w clock) least
    (fun x given _ => ⟨number x given, room⟩) t (expiresAt ▸ ends)

end Interpreter

/-! ## Worlds -/

namespace World

omit [Scalar α] in
theorem Numbered.spares {w : World α} {id : EntityId} {e : Entity α} (numbered : w.Numbered)
    (found : w.entity? id = some e) (w' : World α) : w.Spares id w' :=
  .inl (numbered.below (has_of_entity? found))

/-- A later world and the deeds on one entity up to it, by calls and ticks. A call may be looked at before it
is over, and none of them gives the number of the entity to another. -/
inductive Annals (id : EntityId) (w : World α) : List (Entry α) → World α → Prop where
  | start : Annals id w [] w
  | call {entries w'} (before : Annals id w entries w') (i : Interpreter α) (call : Call α)
      (clock : Clock) (n : Nat) (spared : w'.Spares id (i.moment call w' clock n).state.world) :
      Annals id w (entries ++ (i.deeds call w' clock id n).map (Entry.mk w'.tick))
        (i.moment call w' clock n).state.world
  | advance {entries w'} (before : Annals id w entries w') : Annals id w entries w'.advance.2

namespace Annals

variable {id : EntityId} {w w' : World α} {e : Entity α} {entries : List (Entry α)}

theorem run (before : w.Annals id entries w') (i : Interpreter α) (call : Call α) (clock : Clock)
    {n : Nat} (last : (i.moment call w' clock n).agenda = [])
    (spared : w'.Spares id (i.run call w' clock).2) :
    w.Annals id (entries ++ (i.deeds call w' clock id n).map (Entry.mk w'.tick))
      (i.run call w' clock).2 := by
  rw [Interpreter.world_run last] at spared ⊢
  exact before.call i call clock n spared

/-- What deeds and ticks keep is true of the character of an entity at the end of its annals. -/
theorem story (annals : w.Annals id entries w') (found : w.entity? id = some e)
    {P : List (Entry α) → Nat → Character α → Prop} (start : P [] w.tick e.character)
    (deed : ∀ {entries now x} d, P entries now x → P (entries ++ [⟨now, d⟩]) now (x.after d))
    (tick : ∀ {entries now x}, (∀ entry ∈ entries, entry.tick ≤ now) → P entries now x →
      P entries (now + 1) (x.lapse (now + 1))) :
    (∀ entry ∈ entries, entry.tick ≤ w'.tick) ∧
      ∃ e', w'.entity? id = some e' ∧ e'.id = e.id ∧ P entries w'.tick e'.character := by
  induction annals with
  | start => exact ⟨nofun, e, found, rfl, start⟩
  | @call entries w₁ before i call clock n spared ih =>
      obtain ⟨past, e₁, found₁, id₁, told⟩ := ih
      obtain ⟨e', found', id', character⟩ := Interpreter.moment_character spared found₁
      have all (ds : List (Deed α)) : ∀ {entries x}, P entries w₁.tick x →
          P (entries ++ ds.map (Entry.mk w₁.tick)) w₁.tick (ds.foldl Character.after x) := by
        induction ds with
        | nil =>
            intro entries x told
            rw [List.map_nil, List.append_nil]
            exact told
        | cons d ds ih =>
            intro entries x told
            have next := ih (deed d told)
            rw [List.append_assoc] at next
            exact next
      rw [Interpreter.moment_tick]
      refine ⟨fun entry listed => ?_, e', found', id'.trans id₁, ?_⟩
      · rcases List.mem_append.mp listed with earlier | new
        · exact past entry earlier
        · obtain ⟨d, -, rfl⟩ := List.mem_map.mp new
          exact Nat.le_refl _
      · rw [character]
        exact all _ told
  | @advance entries w₁ before ih =>
      obtain ⟨past, e₁, found₁, id₁, told⟩ := ih
      refine ⟨fun entry listed => (past entry listed).trans (Nat.le_succ _), e₁.lapse (w₁.tick + 1), ?_,
        (e₁.lapse_id _).trans id₁, ?_⟩
      · rw [entity?_advance, found₁]
        rfl
      · rw [e₁.character_lapse]
        exact tick past told

/-- Where no number is NaN, what is done before the largest tick expires later than it is done. -/
theorem ahead [Scalar.RoundsUp α] (annals : w.Annals id entries w') (numbers : ∀ x : α, isNaN x = false) :
    ∀ entry ∈ entries, entry.tick < maxTick → ∀ t, entry.deed.expiresAt? = some t → entry.tick < t := by
  induction annals with
  | start => exact nofun
  | @call entries w₁ before i call clock n spared ih =>
      intro entry listed room
      rcases List.mem_append.mp listed with earlier | new
      · exact ih entry earlier room
      · obtain ⟨d, done, rfl⟩ := List.mem_map.mp new
        obtain ⟨k, -, does⟩ := (i.mem_deeds ..).mp done
        obtain ⟨action, -, later⟩ := Interpreter.moment_ahead does
        exact later (fun x _ => numbers x) room
  | advance before ih => exact ih

end Annals

end World

end Grimoire
