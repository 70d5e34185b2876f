import Grimoire.Proofs.Call.Agenda
import Grimoire.Proofs.Run.Balance
import Mathlib.Data.List.Perm.Subperm

/-! # Every call comes to its end

The moments of a call lead to an empty agenda, at which the call ended as `Interpreter.run` says.  So
every call terminates, without any ceiling, although chains and triggers are put on the agenda with no
measure at hand; and what is proved of every moment is proved of the call.

The proof follows the levels of re-entry: they are never used up, since an effect on the path is
refused and entering another one leaves fewer effects that are not on it.  On one level it follows
the operations, whatever is left to be done after them.
-/

namespace Grimoire

variable {α : Type}

/-! ## Effects that are not running -/

/-- Whether no more than so many registered effects are missing on a path. -/
def Cast.Spare (c : Cast α) (n : Nat) (path : List String) : Prop :=
  ∀ ids : List String, ids.Nodup →
    (∀ id ∈ ids, (∃ e, c.book.require id = .ok e) ∧ id ∉ path) → ids.length ≤ n

theorem Spellbook.found_of_require {b : Spellbook α} {id : String} {e : Effect α}
    (h : b.require id = .ok e) : b.effects[id]? = some e := by
  unfold require get? at h
  split at h
  · split at h
    · next found =>
        cases h
        exact found
    · cases h
  · cases h

theorem Spellbook.mem_ids_of_require {b : Spellbook α} {id : String} {e : Effect α}
    (h : b.require id = .ok e) : id ∈ b.ids := by
  have known : id ∈ b.effects := Std.ExtTreeMap.mem_iff_isSome_getElem?.mpr (by
    rw [found_of_require h]
    rfl)
  exact Std.ExtTreeMap.mem_keys.mpr known

/-- There are no more different registered effects than the spellbook has. -/
theorem Spellbook.length_le_size {b : Spellbook α} {ids : List String} (distinct : ids.Nodup)
    (registered : ∀ id ∈ ids, ∃ e, b.require id = .ok e) : ids.length ≤ b.size := by
  have sub : ids ⊆ b.ids := by
    intro id hid
    obtain ⟨e, found⟩ := registered id hid
    exact mem_ids_of_require found
  have le := (distinct.subperm sub).length_le
  rw [show b.ids.length = b.size from Std.ExtTreeMap.length_keys] at le
  exact le

namespace Cast.Spare

variable {c : Cast α} {n : Nat} {path : List String} {id : String}

theorem size (c : Cast α) (path : List String) : c.Spare c.book.size path :=
  fun _ distinct fresh => Spellbook.length_le_size distinct fun id hid => (fresh id hid).1

theorem mem_path (h : c.Spare 0 path) (registered : ∃ e, c.book.require id = .ok e) :
    id ∈ path := by
  by_contra missing
  have none : [id].length ≤ 0 :=
    h [id] (List.pairwise_singleton ..) (List.forall_mem_singleton.mpr ⟨registered, missing⟩)
  exact absurd none (by simp)

theorem enter (h : c.Spare (n + 1) path) (registered : ∃ e, c.book.require id = .ok e)
    (fresh : id ∉ path) : c.Spare n (id :: path) := by
  intro ids distinct missing
  have other : id ∉ ids := fun hid => (missing id hid).2 List.mem_cons_self
  have all : (id :: ids).length ≤ n + 1 := by
    refine h (id :: ids) (List.nodup_cons.mpr ⟨other, distinct⟩) ?_
    refine List.forall_mem_cons.mpr ⟨⟨registered, fresh⟩, fun id' hid' => ?_⟩
    exact ⟨(missing id' hid').1, fun on => (missing id' hid').2 (List.mem_cons_of_mem _ on)⟩
  rw [List.length_cons] at all
  omega

end Cast.Spare

/-! ## Steps one after the other -/

variable [Scalar α]

namespace Cast

variable {c : Cast α}

theorem after_add (c : Cast α) (k n : Nat) (m : Moment α) :
    c.after (k + n) m = c.after k (c.after n m) := by
  induction k with
  | zero => rw [Nat.zero_add]; rfl
  | succ k ih => rw [Nat.succ_add]; exact congrArg c.step ih

def Reaches (c : Cast α) (m m' : Moment α) : Prop := ∃ n, c.after n m = m'

namespace Reaches

theorem refl (m : Moment α) : c.Reaches m m := ⟨0, rfl⟩

theorem trans {m₁ m₂ m₃ : Moment α} (h : c.Reaches m₁ m₂) (h' : c.Reaches m₂ m₃) :
    c.Reaches m₁ m₃ := by
  obtain ⟨n, rfl⟩ := h
  obtain ⟨k, rfl⟩ := h'
  exact ⟨k + n, c.after_add k n m₁⟩

theorem of_step {m m' m'' : Moment α} (first : c.step m = m') (h : c.Reaches m' m'') :
    c.Reaches m m'' := trans ⟨1, first⟩ h

theorem unwind {ps : List (Pending α)} (ordinary : ∀ p ∈ ps, p.body? = none)
    (rest : List (Pending α)) (fault : Fault) (s : Execution α) :
    c.Reaches ⟨ps ++ rest, some fault, s⟩ ⟨rest, some fault, s⟩ := by
  induction ps with
  | nil => exact refl _
  | cons p ps ih =>
      obtain ⟨first, others⟩ := List.forall_mem_cons.mp ordinary
      have dropped : c.step ⟨p :: ps ++ rest, some fault, s⟩ = ⟨ps ++ rest, some fault, s⟩ := by
        cases p with
        | close => cases first
        | _ => rfl
      exact of_step dropped (ih others)

end Reaches

/-! ## Agendas that follow a run -/

/-- Whether, from a state, an agenda leads to where a run does, whatever is left after it. -/
structure Does (c : Cast α) (ps : List (Pending α)) (m : Run α Unit) (s : Execution α) : Prop where
  reaches : ∀ rest, c.Reaches ⟨ps ++ rest, none, s⟩ (.ofResult rest (m s))

/-- Whether a run that answers an agenda, and that agenda, lead together to where another run
does. -/
structure Follows (c : Cast α) (u : Run α (List (Pending α))) (m : Run α Unit) (s : Execution α) :
    Prop where
  ok : ∀ {more s'}, u s = .ok more s' →
    ∀ rest, c.Reaches ⟨more ++ rest, none, s'⟩ (.ofResult rest (m s))
  error : ∀ {fault s'}, u s = .error fault s' → m s = .error fault s'

namespace Follows

variable {β : Type} {x : Run α β} {u : Run α (List (Pending α))} {m : Run α Unit}
  {s : Execution α}

theorem pure {ps : List (Pending α)} (h : c.Does ps m s) : c.Follows (Pure.pure ps) m s :=
  ⟨fun hr => by cases hr; exact h.reaches, fun hr => by cases hr⟩

theorem bind {k : β → Run α (List (Pending α))} {k' : β → Run α Unit}
    (h : ∀ {y s'}, x s = .ok y s' → c.Follows (k y) (k' y) s') :
    c.Follows (x >>= k) (x >>= k') s := by
  cases hx : x s with
  | ok y s₁ =>
      constructor
      · intro more s' hr
        rw [Run.bind_ok hx] at hr ⊢
        exact (h hx).ok hr
      · intro fault s' hr
        rw [Run.bind_ok hx] at hr ⊢
        exact (h hx).error hr
  | error raised s₁ =>
      constructor
      · intro more s' hr
        rw [Run.bind_error hx] at hr
        cases hr
      · intro fault s' hr
        rw [Run.bind_error hx] at hr ⊢
        cases hr
        rfl

end Follows

namespace Does

variable {p : Pending α} {ps : List (Pending α)} {m k : Run α Unit} {s : Execution α}

theorem nil : c.Does [] (pure ()) s := ⟨fun _ => .refl _⟩

theorem unfold (h : c.Follows (p.unfold c) m s) : c.Does [p] m s := by
  constructor
  intro rest
  cases hu : p.unfold c s with
  | ok more s' => exact .of_step (step_ok rest hu) (h.ok hu rest)
  | error fault s' =>
      rw [h.error hu]
      exact ⟨1, step_error rest hu⟩

theorem cons (first : c.Does [p] m s) (others : ∀ {s'}, m s = .ok () s' → c.Does ps k s')
    (ordinary : ∀ q ∈ ps, q.body? = none) : c.Does (p :: ps) (do m; k) s := by
  constructor
  intro rest
  have start := first.reaches (ps ++ rest)
  cases hm : m s with
  | ok _ s' =>
      rw [hm] at start
      rw [Run.bind_ok hm]
      exact start.trans ((others hm).reaches rest)
  | error fault s' =>
      rw [hm] at start
      rw [Run.bind_error hm]
      exact start.trans (.unwind ordinary rest fault s')

theorem within {b : Body} {inner : Pending α}
    (h : b.Admitted c.settings.limits s.governor → c.Does [inner] m (b.opened s)) :
    c.Does [.enter b inner] (c.within b m) s := by
  constructor
  intro rest
  unfold Cast.within
  rcases b.admitted_or_refused c.settings.limits s.governor with room | ⟨fault, refused⟩
  · refine .of_step (step_ok rest (Run.bind_ok (enter_ok room))) ?_
    refine ((h room).reaches (.close b :: rest)).trans ?_
    rw [Run.bind_ok (enter_ok room)]
    cases hm : m (b.opened s) with
    | ok _ s' =>
        rw [Run.andThen_ok hm]
        exact ⟨1, rfl⟩
    | error fault s' =>
        rw [Run.andThen_error hm]
        exact ⟨1, rfl⟩
  · rw [Run.bind_error (enter_refused refused)]
    exact ⟨1, step_error rest (Run.bind_error (enter_refused refused))⟩

theorem cycle {b : Body} {inner : Pending α} {id : String} (runs : b.effect? = some id)
    (running : id ∈ s.governor.path) :
    c.Does [.enter b inner] (throw (.chainLimit id .cycle)) s :=
  ⟨fun rest => ⟨1, step_error rest (Run.bind_error (enter_refused (.cycle runs running)))⟩⟩

end Does

/-! ## Operations -/

/-- Chains and triggers whose entries do the same, as long as no more than so many effects are
missing on the path. -/
structure Simulates (c : Cast α) (n : Nat) (re : Reentry α) : Prop where
  balanced : re.Balanced
  chain : ∀ target id newTarget {s : Execution α}, c.Spare n s.governor.path →
    c.Does [.dispatch target (.chain id newTarget)] (re.chain target id newTarget) s
  trigger : ∀ target id {s : Execution α}, c.Spare n s.governor.path →
    c.Does [.dispatch target (.trigger id)] (re.trigger target id) s

variable {n : Nat} {re : Reentry α}

omit [Scalar α] in
theorem Spare.of_balanced {s s' : Execution α} {β : Type} {m : Run α β} {x : β}
    (h : c.Spare n s.governor.path) (hm : m.Balanced) (hr : m s = .ok x s') :
    c.Spare n s'.governor.path := by
  have place := hm.place s
  rw [hr] at place
  have path : s'.governor.path = s.governor.path := place.path
  rw [path]
  exact h

omit [Scalar α] in
theorem Spare.of_calm {s s' : Execution α} {β : Type} {m : Run α β} {x : β}
    (h : c.Spare n s.governor.path) (hm : ∀ s, m.Takes Undisturbed s) (hr : m s = .ok x s') :
    c.Spare n s'.governor.path := h.of_balanced (.of_calm hm) hr

theorem Does.nested {inner : Pending α} {m : Run α Unit} {s : Execution α}
    (h : ∀ s' : Execution α, c.Spare n s'.governor.path → c.Does [inner] m s')
    (spare : c.Spare n s.governor.path) : c.Does [.enter .nested inner] (c.within .nested m) s :=
  .within fun _ => h _ spare

theorem does_rounds (target : EntityId) (body : List (Operation α))
    (h : ∀ s : Execution α, c.Spare n s.governor.path →
      c.Does [.operations target body] (c.runOperations re target body) s)
    (balanced : re.Balanced) (count : Nat) (s : Execution α) (spare : c.Spare n s.governor.path) :
    c.Does [.rounds target count body] (Run.times count (c.runOperations re target body)) s := by
  induction count generalizing s with
  | zero => exact .unfold (.pure .nil)
  | succ count ih =>
      refine .unfold (.pure (.cons (h s spare) (fun hr => ih _ ?_) (by simp [Pending.body?])))
      exact spare.of_balanced (balanced_operations balanced target body) hr

mutual

theorem does_dispatch (h : c.Simulates n re) (target : EntityId) :
    ∀ op : Operation α, ∃ m, c.runOperation re target op = (do c.permit; m) ∧ m.Balanced ∧
      ∀ s : Execution α, c.Spare n s.governor.path → c.Does [.dispatch target op] m s
  | .act action => by
      refine ⟨c.perform target action, by unfold runOperation; rfl, ?_, fun s _ => ?_⟩
      · exact .of_calm fun s => (perform_takes c target action s).undisturbed
      · rw [← bind_pure (c.perform target action)]
        exact .unfold (.bind fun _ => .pure .nil)
  | .chain effectId newTarget =>
      ⟨re.chain target effectId newTarget, by unfold runOperation; rfl,
        h.balanced.chain target effectId newTarget,
        fun _ spare => h.chain target effectId newTarget spare⟩
  | .trigger effectId =>
      ⟨re.trigger target effectId, by unfold runOperation; rfl, h.balanced.trigger target effectId,
        fun _ spare => h.trigger target effectId spare⟩
  | .conditional condition accepted refused => by
      have decides (s : Execution α) := calm_evalBool (c := c) (s := s) target condition
      refine ⟨_, by unfold runOperation; rfl, ?_, fun s spare => ?_⟩
      · refine (Run.Balanced.of_calm decides).bind fun met => ?_
        split
        · exact .within c .nested (balanced_operations h.balanced target accepted)
        · split
          · exact .pure ()
          · next ops => exact .within c .nested (balanced_operations h.balanced target ops)
      · refine .unfold (.bind fun hm => ?_)
        have spare := spare.of_calm decides hm
        split
        · exact .pure (.nested (does_operations h target accepted) spare)
        · split
          · exact .pure .nil
          · next ops => exact .pure (.nested (does_operations h target ops) spare)
  | .iterate times body => by
      have counts (s : Execution α) := calm_evalCount (c := c) (s := s) target "repeat.times" times
      refine ⟨_, by unfold runOperation; rfl, ?_, fun s spare => ?_⟩
      · refine (Run.Balanced.of_calm counts).bind fun count => ?_
        split
        · exact .pure ()
        · have round := balanced_operations (c := c) h.balanced target body
          exact .within c .nested (Run.Balanced.times round count)
      · refine .unfold (.bind fun hm => ?_)
        have spare := spare.of_calm counts hm
        split
        · exact .pure .nil
        · exact .pure (.nested (fun s' => does_rounds target body
            (does_operations h target body) h.balanced _ s') spare)
  | .delay ticks body => by
      refine ⟨c.delay target ticks body, by unfold runOperation; rfl, ?_, fun s _ => ?_⟩
      · exact .of_calm fun s => calm_delay target ticks body
      · rw [← bind_pure (c.delay target ticks body)]
        exact .unfold (.bind fun _ => .pure .nil)

theorem does_operations (h : c.Simulates n re) (target : EntityId) :
    ∀ (ops : List (Operation α)) (s : Execution α), c.Spare n s.governor.path →
      c.Does [.operations target ops] (c.runOperations re target ops) s
  | [], s, _ => by
      unfold runOperations
      exact .unfold (.pure .nil)
  | op :: ops, s, spare => by
      obtain ⟨m, run, balanced, does⟩ := does_dispatch h target op
      unfold runOperations
      rw [run, bind_assoc]
      refine .unfold (.bind fun hp => .pure ?_)
      have spare := spare.of_balanced c.balanced_permit hp
      refine .cons (does _ spare) (fun hm => ?_) (by simp [Pending.body?])
      exact does_operations h target ops _ (spare.of_balanced balanced hm)

end

theorem does_targets (h : c.Simulates n re) (ops : List (Operation α)) (ids : List EntityId)
    (s : Execution α) (spare : c.Spare n s.governor.path) :
    c.Does [.targets ids ops] (c.runOnTargets re ops ids) s := by
  induction ids generalizing s with
  | nil => exact .unfold (.pure .nil)
  | cons id ids ih =>
      change c.Does _ ((do c.enroll id; c.runOperations re id ops) >>= fun _ =>
        c.runOnTargets re ops ids) s
      rw [bind_assoc]
      refine .unfold (.bind fun he => .pure ?_)
      have spare := spare.of_balanced (c.balanced_enroll id) he
      refine .cons (does_operations h id ops _ spare) (fun hr => ih _ ?_) (by simp [Pending.body?])
      exact spare.of_balanced (balanced_operations h.balanced id ops) hr

/-! ## Levels of re-entry -/

theorem does_chainBody (h : c.Simulates n re) (target : EntityId) (e : Effect α)
    (newTarget : Selector α) (s : Execution α) (spare : c.Spare n s.governor.path) :
    c.Does [.chained target e newTarget] (c.chainBody re target e newTarget) s := by
  refine .unfold (.bind fun hc => .bind fun hm => ?_)
  obtain ⟨-, rfl⟩ := Run.check_ok hc
  have spare := spare.of_calm (fun _ => calm_conditionsHold ..) hm
  split
  · exact .bind fun hr =>
      .pure (does_targets h e.operations _ _ (spare.of_calm (fun _ => calm_resolve ..) hr))
  · exact .pure .nil

theorem does_triggerBody (h : c.Simulates n re) (target : EntityId) (e : Effect α)
    (s : Execution α) (spare : c.Spare n s.governor.path) :
    c.Does [.triggered target e] (c.triggerBody re target e) s := by
  refine .unfold (.bind fun hc => .bind fun hm => ?_)
  obtain ⟨-, rfl⟩ := Run.check_ok hc
  have spare := spare.of_calm (fun _ => calm_conditionsHold ..) hm
  split
  · exact .pure (does_operations h target e.operations _ spare)
  · exact .pure .nil

theorem simulates_reentry (c : Cast α) (n : Nat) : c.Simulates n (c.reentry n) := by
  induction n with
  | zero =>
      refine ⟨c.balanced_reentry 0, ?_, ?_⟩
      · intro target id newTarget s spare
        refine .unfold (.bind fun hc => .pure ?_)
        obtain ⟨found, rfl⟩ := Run.check_ok hc
        exact .cycle rfl (spare.mem_path ⟨_, found⟩)
      · intro target id s spare
        refine .unfold (.bind fun hc => .pure ?_)
        obtain ⟨found, rfl⟩ := Run.check_ok hc
        exact .cycle rfl (spare.mem_path ⟨_, found⟩)
  | succ n ih =>
      refine ⟨c.balanced_reentry (n + 1), ?_, ?_⟩
      · intro target id newTarget s spare
        refine .unfold (.bind fun hc => .pure (.within fun room => ?_))
        obtain ⟨found, rfl⟩ := Run.check_ok hc
        exact does_chainBody ih target _ newTarget _
          (spare.enter ⟨_, found⟩ (room.fresh id rfl))
      · intro target id s spare
        refine .unfold (.bind fun hc => .pure (.within fun room => ?_))
        obtain ⟨found, rfl⟩ := Run.check_ok hc
        exact does_triggerBody ih target _ _ (spare.enter ⟨_, found⟩ (room.fresh id rfl))

theorem simulates_outermost (c : Cast α) : c.Simulates c.book.size c.outermost :=
  c.simulates_reentry c.book.size

/-! ## Calls -/

theorem does_runEffect (e : Effect α) (designated : Option EntityId) (s : Execution α) :
    c.Does [.effect e designated] (c.runEffect e designated) s :=
  .unfold (.bind fun _ =>
    .pure (does_targets c.simulates_outermost e.operations _ _ (.size c _)))

end Cast

namespace Call

def perform (c : Cast α) : Call α → Run α Unit
  | execute e context => c.runTopLevel e context.target
  | request q => c.runWork q.target q.work

theorem follows (c : Cast α) (call : Call α) (s : Execution α) :
    c.Follows (call.prepare c) (call.perform c) s := by
  cases call with
  | execute e context =>
      refine .bind fun _ => .bind fun _ => ?_
      dsimp only
      split
      · exact .bind fun h => by cases h
      · refine .bind fun _ => .pure (.unfold (.bind fun _ => ?_))
        split
        · cases c.request? e context.target with
          | none => exact .pure (Cast.does_runEffect ..)
          | some q =>
              dsimp only
              rw [← bind_pure (Run.note _)]
              exact .bind fun _ => .bind fun _ => .pure .nil
        · rw [← bind_pure (Cast.stop _)]
          exact .bind fun _ => .pure .nil
  | request q =>
      have stopped (s : Execution α) : c.Follows (do Cast.stop .participantGone; pure [])
          (Cast.stop .participantGone) s := by
        rw [← bind_pure (Cast.stop .participantGone)]
        exact .bind fun _ => .pure .nil
      unfold perform prepare Cast.runWork
      dsimp only
      cases q.work with
      | effect e =>
          refine .bind fun _ => .bind fun _ => ?_
          split
          · exact .bind fun _ => .pure (Cast.does_runEffect ..)
          · exact stopped _
      | operations target ops =>
          refine .bind fun _ => ?_
          split
          · exact .pure (Cast.does_targets c.simulates_outermost _ _ _ (.size c _))
          · exact stopped _

end Call

namespace Interpreter

theorem run_eq_perform (i : Interpreter α) (call : Call α) (w : World α) (clock : Clock) :
    i.run call w clock =
      finish (call.perform (i.cast call.caster w clock) (i.start call w)) := by
  cases call <;> rfl

/-- Some moment of a call is the last, and what the call does ends there. -/
theorem exists_settled (i : Interpreter α) (call : Call α) (w : World α) (clock : Clock) :
    ∃ n, (i.moment call w clock n).agenda = [] ∧
      call.perform (i.cast call.caster w clock) (i.start call w) =
        (i.moment call w clock n).result := by
  have follows := call.follows (i.cast call.caster w clock) (i.start call w)
  have reaches : (i.cast call.caster w clock).Reaches (i.opening call w clock)
      (.ofResult [] (call.perform (i.cast call.caster w clock) (i.start call w))) := by
    cases prepared : call.prepare (i.cast call.caster w clock) (i.start call w) with
    | ok agenda s =>
        rw [opening_of_ok prepared]
        have leads := follows.ok prepared []
        rw [List.append_nil] at leads
        exact leads
    | error fault s =>
        rw [opening_of_error prepared, follows.error prepared]
        exact .refl _
  obtain ⟨n, last⟩ := reaches
  refine ⟨n, ?_, ?_⟩ <;>
  · unfold moment
    rw [last]
    cases call.perform (i.cast call.caster w clock) (i.start call w) <;> rfl

theorem moment_of_last {i : Interpreter α} {call : Call α} {w : World α} {clock : Clock} {n : Nat}
    (last : (i.moment call w clock n).agenda = []) (k : Nat) :
    i.moment call w clock (n + k) = i.moment call w clock n := by
  induction k with
  | zero => rfl
  | succ k ih =>
      rw [← Nat.add_assoc, moment_succ, ih]
      exact (Cast.step_transition ..).eq_of_nil last

theorem perform_eq_of_last {i : Interpreter α} {call : Call α} {w : World α} {clock : Clock} {n : Nat}
    (last : (i.moment call w clock n).agenda = []) :
    call.perform (i.cast call.caster w clock) (i.start call w) = (i.moment call w clock n).result := by
  obtain ⟨k, last', performed⟩ := i.exists_settled call w clock
  rw [performed]
  rcases Nat.le_total n k with le | le
  · obtain ⟨d, rfl⟩ := Nat.exists_eq_add_of_le le
    rw [moment_of_last last]
  · obtain ⟨d, rfl⟩ := Nat.exists_eq_add_of_le le
    rw [moment_of_last last']

theorem run_eq_of_last {i : Interpreter α} {call : Call α} {w : World α} {clock : Clock} {n : Nat}
    (last : (i.moment call w clock n).agenda = []) :
    i.run call w clock = finish (i.moment call w clock n).result :=
  (run_eq_perform ..).trans (congrArg finish (perform_eq_of_last last))

theorem exists_last (i : Interpreter α) (call : Call α) (w : World α) (clock : Clock) :
    ∃ n, (i.moment call w clock n).agenda = [] ∧
      i.run call w clock = finish (i.moment call w clock n).result := by
  obtain ⟨n, last, -⟩ := i.exists_settled call w clock
  exact ⟨n, last, run_eq_of_last last⟩

end Interpreter

end Grimoire
