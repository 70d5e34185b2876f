import Grimoire.Effect.Spellbook
import Grimoire.Proofs.Settings.Identifier

/-! # What a spellbook holds

A spellbook starts empty, and effects are added to it one at a time or by the list.  An addition may be
refused, and a list may be refused after some of it was taken in.  Whatever was tried, every effect
stands under its own id, and what was once taken in stays as it is.

What can be taken in is said without the order of the checks: `Accepts` for one effect, `AcceptsAll` for
a list, whose effects must also differ from each other.  `Extends` says what is there afterwards, name by
name.
-/

namespace Grimoire.Spellbook

variable {α : Type} {b mid after : Spellbook α} {e : Effect α} {es more : List (Effect α)}

/-! ## Single effects -/

/-- Whether a spellbook has room for an effect: its id is an identifier, and not taken. -/
def Accepts (b : Spellbook α) (e : Effect α) : Prop :=
  ∃ id, e.id = some id ∧ Identifier.isValid id = true ∧ b.get? id = none

/-- Whether a spellbook holds what another one holds and some effects under their ids, and nothing
else. -/
def Extends (after b : Spellbook α) (es : List (Effect α)) : Prop :=
  ∀ id e, after.get? id = some e ↔ b.get? id = some e ∨ e ∈ es ∧ e.id = some id

/-- Whether every effect of a spellbook stands under its own id, which is an identifier. -/
def Keyed (b : Spellbook α) : Prop :=
  ∀ id e, b.get? id = some e → e.id = some id ∧ Identifier.isValid id = true

theorem get?_empty (id : String) : ({} : Spellbook α).get? id = none := by simp [get?]

theorem get?_insert (b : Spellbook α) (id : String) (e : Effect α) (other : String) :
    (⟨b.effects.insert id e⟩ : Spellbook α).get? other =
      if id = other then some e else b.get? other := by
  simp [get?, Std.ExtTreeMap.getElem?_insert]

theorem contains_eq_false_iff {id : String} : b.contains id = false ↔ b.get? id = none := by
  rw [contains, get?, Std.ExtTreeMap.contains_eq_isSome_getElem?, Option.isSome_eq_false_iff,
    Option.isNone_iff_eq_none]

theorem register_ok_iff : b.register e = .ok after ↔
    ∃ id, e.id = some id ∧ Identifier.isValid id = true ∧ b.get? id = none ∧
      after = ⟨b.effects.insert id e⟩ := by
  unfold register
  cases named : e.id with
  | none => simp
  | some id =>
      simp only [Option.some.injEq, exists_eq_left', Vocabulary.checkIdentifier,
        Identifier.isValid_iff, ← contains_eq_false_iff]
      cases Identifier.rejection? id with
      | some reason => simp [bind, Except.bind]
      | none => cases b.contains id <;> simp [bind, Except.bind, eq_comm]

theorem exists_register_iff : (∃ after, b.register e = .ok after) ↔ b.Accepts e := by
  simp only [register_ok_iff]
  constructor
  · rintro ⟨after, id, named, valid, free, -⟩
    exact ⟨id, named, valid, free⟩
  · rintro ⟨id, named, valid, free⟩
    exact ⟨_, id, named, valid, free, rfl⟩

theorem extends_register (h : b.register e = .ok after) : after.Extends b [e] := by
  obtain ⟨id, named, -, free, rfl⟩ := register_ok_iff.mp h
  intro other found
  rw [get?_insert, List.mem_singleton]
  split
  · next same =>
      subst same
      rw [free]
      constructor
      · rintro ⟨⟩
        exact .inr ⟨rfl, named⟩
      · rintro (⟨⟨⟩⟩ | ⟨rfl, -⟩)
        rfl
  · next apart =>
      refine (or_iff_left ?_).symm
      rintro ⟨rfl, same⟩
      exact apart (Option.some.inj (named.symm.trans same))

theorem Extends.refl (b : Spellbook α) : b.Extends b [] := by simp [Extends]

theorem Extends.trans (first : mid.Extends b es) (second : after.Extends mid more) :
    after.Extends b (es ++ more) := by
  intro id found
  rw [second, first, List.mem_append, or_and_right, or_assoc]

theorem Extends.kept (h : after.Extends b es) {id : String} (found : b.get? id = some e) :
    after.get? id = some e := (h id e).mpr (.inl found)

/-! ## Lists of effects -/

/-- Whether a spellbook has room for all effects of a list at once. -/
structure AcceptsAll (b : Spellbook α) (es : List (Effect α)) : Prop where
  each : ∀ e ∈ es, b.Accepts e
  distinct : (es.map Effect.id).Nodup

theorem acceptsAll_nil (b : Spellbook α) : b.AcceptsAll [] := ⟨by simp, by simp⟩

theorem acceptsAll_singleton : b.AcceptsAll [e] ↔ b.Accepts e :=
  ⟨fun h => h.each e (List.mem_singleton_self e), fun h => ⟨by simpa using h, by simp⟩⟩

theorem AcceptsAll.of_append (h : b.AcceptsAll (es ++ more)) : b.AcceptsAll es where
  each e listed := h.each e (List.mem_append_left more listed)
  distinct := by
    have distinct := h.distinct
    rw [List.map_append, List.nodup_append] at distinct
    exact distinct.1

theorem Extends.accepts_iff (h : after.Extends b es) :
    after.Accepts e ↔ b.Accepts e ∧ e.id ∉ es.map Effect.id := by
  constructor
  · rintro ⟨id, named, valid, free⟩
    refine ⟨⟨id, named, valid, ?_⟩, ?_⟩
    · refine Option.eq_none_iff_forall_ne_some.mpr fun held found => ?_
      simp [h.kept found] at free
    · rw [List.mem_map]
      rintro ⟨other, listed, same⟩
      have found := (h id other).mpr (.inr ⟨listed, same.trans named⟩)
      simp [found] at free
  · rintro ⟨⟨id, named, valid, free⟩, new⟩
    refine ⟨id, named, valid, Option.eq_none_iff_forall_ne_some.mpr fun held found => ?_⟩
    rcases (h id held).mp found with there | ⟨listed, same⟩
    · simp [there] at free
    · exact new (List.mem_map.mpr ⟨held, listed, same.trans named.symm⟩)

theorem Extends.acceptsAll_iff (h : mid.Extends b es) (room : b.AcceptsAll es) :
    mid.AcceptsAll more ↔ b.AcceptsAll (es ++ more) := by
  constructor
  · intro rest
    have apart := fun e listed => h.accepts_iff.mp (rest.each e listed)
    refine ⟨fun e listed => ?_, ?_⟩
    · rcases List.mem_append.mp listed with listed | listed
      · exact room.each e listed
      · exact (apart e listed).1
    · rw [List.map_append, List.nodup_append]
      refine ⟨room.distinct, rest.distinct, fun own held id listed same => ?_⟩
      obtain ⟨e, kept, rfl⟩ := List.mem_map.mp listed
      exact (apart e kept).2 (same ▸ held)
  · intro all
    have distinct := all.distinct
    rw [List.map_append, List.nodup_append] at distinct
    obtain ⟨-, later, apart⟩ := distinct
    refine ⟨fun e listed => h.accepts_iff.mpr ⟨all.each e (List.mem_append_right es listed), ?_⟩,
      later⟩
    exact fun held => apart _ held _ (List.mem_map_of_mem listed) rfl

/-- What comes of taking in a list: there is room for all of it and all of it is added, or the list is
added up to an effect there is no room for. -/
inductive Taken (b : Spellbook α) (es : List (Effect α)) :
    EStateM.Result Fault (Spellbook α) Nat → Prop where
  | all {extended : Spellbook α} (room : b.AcceptsAll es) (added : extended.Extends b es) :
      Taken b es (.ok es.length extended)
  | part {good rest : List (Effect α)} {bad : Effect α} {fault : Fault} {extended : Spellbook α}
      (split : es = good ++ bad :: rest) (room : b.AcceptsAll good)
      (full : ¬ b.AcceptsAll (good ++ [bad])) (added : extended.Extends b good) :
      Taken b es (.error fault extended)

theorem registerAll_cons (e : Effect α) (es : List (Effect α)) (b : Spellbook α) :
    registerAll (e :: es) b = match b.register e with
      | .error fault => .error fault b
      | .ok mid => (do let count ← registerAll es; pure (count + 1)) mid := by
  rw [registerAll]
  change (match b.register e with
    | .error fault => (throw fault : EStateM Fault (Spellbook α) Nat)
    | .ok mid => do
      set mid
      let count ← registerAll es
      pure (count + 1)) b = _
  cases b.register e <;> rfl

theorem registerAll_taken (es : List (Effect α)) (b : Spellbook α) : Taken b es (registerAll es b) := by
  induction es generalizing b with
  | nil => exact .all (acceptsAll_nil b) (.refl b)
  | cons e es ih =>
      cases h : b.register e with
      | error fault =>
          rw [registerAll_cons, h]
          refine .part (List.nil_append _).symm (acceptsAll_nil b) ?_ (.refl b)
          rw [List.nil_append, acceptsAll_singleton, ← exists_register_iff]
          rintro ⟨after, registered⟩
          cases h.symm.trans registered
      | ok mid =>
          have first : mid.Extends b [e] := extends_register h
          have room : b.AcceptsAll [e] := acceptsAll_singleton.mpr (exists_register_iff.mp ⟨mid, h⟩)
          rw [registerAll_cons, h]
          simp only [bind, EStateM.bind]
          have rest := ih mid
          cases answer : registerAll es mid with
          | ok count after =>
              rw [answer] at rest
              cases rest with
              | all fits added =>
                  exact .all ((first.acceptsAll_iff room).mp fits) (first.trans added)
          | error fault after =>
              rw [answer] at rest
              cases rest with
              | part split fits full added =>
                  rw [first.acceptsAll_iff room] at full
                  exact .part (congrArg (e :: ·) split) ((first.acceptsAll_iff room).mp fits) full
                    (first.trans added)

theorem exists_registerAll_iff {count : Nat} :
    (∃ after, registerAll es b = .ok count after) ↔ count = es.length ∧ b.AcceptsAll es := by
  constructor
  · rintro ⟨after, answer⟩
    cases answer ▸ registerAll_taken es b with
    | all room added => exact ⟨rfl, room⟩
  · rintro ⟨rfl, room⟩
    cases answer : registerAll es b with
    | ok count after =>
        cases answer ▸ registerAll_taken es b with
        | all _ added => exact ⟨after, rfl⟩
    | error fault after =>
        cases answer ▸ registerAll_taken es b with
        | @part good rest bad _ _ split _ full _ =>
            have all : b.AcceptsAll (good ++ [bad] ++ rest) := by
              rwa [List.append_assoc, List.singleton_append, ← split]
            exact absurd all.of_append full

/-! ## Spellbooks that were added to -/

/-- Something that is added to a spellbook: one effect, or the effects of a document. -/
inductive Addition where
  | effect (e : Effect Float)
  | document (s : String)

def add (b : Spellbook Float) : Addition → Spellbook Float
  | .effect e =>
    match b.register e with
    | .ok after => after
    | .error _ => b
  | .document s =>
    match b.load s with
    | .ok _ after | .error _ after => after

/-- The spellbook after some additions were tried in a row. -/
def addAll (b : Spellbook Float) (additions : List Addition) : Spellbook Float := additions.foldl add b

/-- What registering one effect does. -/
structure Registers (b : Spellbook Float) (e : Effect Float) : Prop where
  succeeds : (∃ after, b.register e = .ok after) ↔ b.Accepts e
  adds : ∀ after, b.register e = .ok after → b.add (.effect e) = after ∧ after.Extends b [e]
  refuses : ¬ b.Accepts e → b.add (.effect e) = b

/-- What loading a document does that lists some effects. -/
structure Loads (b : Spellbook Float) (s : String) (es : List (Effect Float)) : Prop where
  succeeds : ∀ count, (∃ after, b.load s = .ok count after) ↔ count = es.length ∧ b.AcceptsAll es
  adds : ∀ count after, b.load s = .ok count after → after.Extends b es
  stops : ∀ fault after, b.load s = .error fault after → ∃ good bad rest, es = good ++ bad :: rest ∧
    b.AcceptsAll good ∧ ¬ b.AcceptsAll (good ++ [bad]) ∧ after.Extends b good

theorem registers (b : Spellbook Float) (e : Effect Float) : b.Registers e where
  succeeds := exists_register_iff
  adds after registered := by
    refine ⟨?_, extends_register registered⟩
    simp only [add, registered]
  refuses full := by
    cases answer : b.register e with
    | ok after => exact absurd (exists_register_iff.mp ⟨after, answer⟩) full
    | error fault => simp only [add, answer]

theorem load_eq {s : String} {es : List (Effect Float)} (listed : Effect.readList s = .ok es)
    (b : Spellbook Float) : b.load s = registerAll es b := by simp only [load, listed]

theorem load_eq_error {s : String} {fault : Fault} (unread : Effect.readList s = .error fault)
    (b : Spellbook Float) : b.load s = .error fault b := by
  simp only [load, unread]
  rfl

theorem loads {s : String} {es : List (Effect Float)} (listed : Effect.readList s = .ok es)
    (b : Spellbook Float) : b.Loads s es := by
  have taken := registerAll_taken es b
  constructor <;> rw [load_eq listed]
  · exact fun count => exists_registerAll_iff
  · intro count after answer
    cases answer ▸ taken with
    | all room added => exact added
  · intro fault after answer
    cases answer ▸ taken with
    | part split room full added => exact ⟨_, _, _, split, room, full, added⟩

theorem add_extends (b : Spellbook Float) (addition : Addition) :
    ∃ es, b.AcceptsAll es ∧ (b.add addition).Extends b es := by
  cases addition with
  | effect e =>
      cases answer : b.register e with
      | ok after =>
          have added := (registers b e).adds after answer
          refine ⟨[e], acceptsAll_singleton.mpr (exists_register_iff.mp ⟨after, answer⟩), ?_⟩
          exact added.1 ▸ added.2
      | error fault =>
          refine ⟨[], acceptsAll_nil b, ?_⟩
          simp only [add, answer]
          exact .refl b
  | document s =>
      cases listed : Effect.readList s with
      | error fault =>
          refine ⟨[], acceptsAll_nil b, ?_⟩
          simp only [add, load_eq_error listed]
          exact .refl b
      | ok es =>
          have taken := registerAll_taken es b
          simp only [add, load_eq listed]
          generalize registerAll es b = answer at taken
          cases taken with
          | all room added => exact ⟨es, room, added⟩
          | part split room full added => exact ⟨_, room, added⟩

theorem Keyed.extends {b after : Spellbook Float} {es : List (Effect Float)} (h : b.Keyed)
    (room : b.AcceptsAll es) (added : after.Extends b es) : after.Keyed := by
  intro id e found
  rcases (added id e).mp found with there | ⟨listed, named⟩
  · exact h id e there
  · obtain ⟨own, same, valid, -⟩ := room.each e listed
    cases named.symm.trans same
    exact ⟨named, valid⟩

theorem Keyed.addAll {b : Spellbook Float} (h : b.Keyed) (additions : List Addition) :
    (b.addAll additions).Keyed := by
  induction additions generalizing b with
  | nil => exact h
  | cons addition additions ih =>
      obtain ⟨es, room, added⟩ := add_extends b addition
      exact ih (h.extends room added)

theorem addAll_kept (additions : List Addition) {b : Spellbook Float} {id : String}
    {e : Effect Float} (found : b.get? id = some e) : (b.addAll additions).get? id = some e := by
  induction additions generalizing b with
  | nil => exact found
  | cons addition additions ih =>
      obtain ⟨es, -, added⟩ := add_extends b addition
      exact ih (added.kept found)

theorem Keyed.require_eq_ok_iff {b : Spellbook Float} (h : b.Keyed) {id : String}
    {e : Effect Float} : b.require id = .ok e ↔ b.get? id = some e := by
  unfold require
  constructor
  · intro answer
    split at answer
    · split at answer
      · next found => exact found.trans (congrArg some (Except.ok.inj answer))
      · cases answer
    · cases answer
  · intro found
    rw [if_pos (h id e found).2, found]

/-- In every spellbook that additions lead to, effects stand under their own ids, which are identifiers;
`require` is a look-up; what is registered stays registered; and an addition takes all new, well-named
effects up to the first one that is not. -/
theorem loses_nothing (additions : List Addition) :
    let b := ({} : Spellbook Float).addAll additions
    b.Keyed ∧ (∀ id e, b.require id = .ok e ↔ b.get? id = some e) ∧
      (∀ later id e, b.get? id = some e → (b.addAll later).get? id = some e) ∧
      (∀ e, b.Registers e) ∧
      (∀ s es, Effect.readList s = .ok es → b.Loads s es) ∧
      (∀ s fault, Effect.readList s = .error fault → b.load s = .error fault b) := by
  intro b
  have keyed : b.Keyed := by
    refine Keyed.addAll (fun id e found => ?_) additions
    simp [get?_empty] at found
  exact ⟨keyed, fun id e => keyed.require_eq_ok_iff, fun later id e found => addAll_kept later found,
    registers b, fun s es listed => loads listed b, fun s fault unread => load_eq_error unread b⟩

end Grimoire.Spellbook
