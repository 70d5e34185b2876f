import Grimoire.Proofs.Run.Ceilings
import Grimoire.Proofs.Run.Strikes

/-! # What moves leave alone

Actions, evaluations and checks change the world, the random stream and the budgets of damage and
spawns.  `Undisturbed` says what they keep: the counters that ceilings are about, the path, and the
report, which is only added to.  What opens bodies and counts operations and targets is left to
`Grimoire.Proofs.Call.Step`.
-/

namespace Grimoire

variable {α : Type}

/-! ## Reports that grow -/

/-- A report that another one continues. -/
structure Report.Extends (r r' : Report α) : Prop where
  affected : r.affected.toList <+: r'.affected.toList
  changes : r.changes.toList <+: r'.changes.toList
  statuses : r.statuses.toList <+: r'.statuses.toList
  events : r.events.toList <+: r'.events.toList
  clamps : r.clamps.toList <+: r'.clamps.toList
  spawned : r.spawned.toList <+: r'.spawned.toList
  scheduled : r.scheduled.toList <+: r'.scheduled.toList

namespace Report

theorem prefix_push {β : Type} (xs : Array β) (x : β) : xs.toList <+: (xs.push x).toList := by
  rw [Array.toList_push]
  exact List.prefix_append ..

namespace Extends

theorem refl (r : Report α) : r.Extends r where
  affected := List.prefix_rfl
  changes := List.prefix_rfl
  statuses := List.prefix_rfl
  events := List.prefix_rfl
  clamps := List.prefix_rfl
  spawned := List.prefix_rfl
  scheduled := List.prefix_rfl

theorem trans {r₁ r₂ r₃ : Report α} (h : r₁.Extends r₂) (h' : r₂.Extends r₃) : r₁.Extends r₃ where
  affected := h.affected.trans h'.affected
  changes := h.changes.trans h'.changes
  statuses := h.statuses.trans h'.statuses
  events := h.events.trans h'.events
  clamps := h.clamps.trans h'.clamps
  spawned := h.spawned.trans h'.spawned
  scheduled := h.scheduled.trans h'.scheduled

end Extends

end Report

/-- A report that another one continues without a target that was met, an operation or a chain. -/
structure Report.Adds (r r' : Report α) : Prop where
  affected : r'.affected = r.affected
  operations : r'.operations = r.operations
  chainCount : r'.chainCount = r.chainCount
  changes : r.changes.toList <+: r'.changes.toList
  statuses : r.statuses.toList <+: r'.statuses.toList
  events : r.events.toList <+: r'.events.toList
  clamps : r.clamps.toList <+: r'.clamps.toList
  spawned : r.spawned.toList <+: r'.spawned.toList
  scheduled : r.scheduled.toList <+: r'.scheduled.toList

namespace Report

theorem Adds.extend {r r' : Report α} (h : r.Adds r') : r.Extends r' where
  affected := h.affected ▸ List.prefix_rfl
  changes := h.changes
  statuses := h.statuses
  events := h.events
  clamps := h.clamps
  spawned := h.spawned
  scheduled := h.scheduled

theorem Adds.refl (r : Report α) : r.Adds r :=
  ⟨rfl, rfl, rfl, List.prefix_rfl, List.prefix_rfl, List.prefix_rfl, List.prefix_rfl,
    List.prefix_rfl, List.prefix_rfl⟩

theorem Adds.trans {r₁ r₂ r₃ : Report α} (h : r₁.Adds r₂) (h' : r₂.Adds r₃) : r₁.Adds r₃ where
  affected := h'.affected.trans h.affected
  operations := h'.operations.trans h.operations
  chainCount := h'.chainCount.trans h.chainCount
  changes := h.changes.trans h'.changes
  statuses := h.statuses.trans h'.statuses
  events := h.events.trans h'.events
  clamps := h.clamps.trans h'.clamps
  spawned := h.spawned.trans h'.spawned
  scheduled := h.scheduled.trans h'.scheduled

theorem adds_change (c : Change α) (r : Report α) : r.Adds (r.change c) :=
  { Adds.refl r with changes := prefix_push r.changes c }

theorem adds_status (status : AppliedStatus) (r : Report α) : r.Adds (r.status status) :=
  { Adds.refl r with statuses := prefix_push r.statuses status }

theorem adds_schedule (q : Request α) (r : Report α) : r.Adds (r.schedule q) :=
  { Adds.refl r with scheduled := prefix_push r.scheduled q }

end Report

/-! ## Moves -/

/-- What everything keeps that neither opens nor closes a body nor counts an operation or a target. -/
structure Undisturbed (s s' : Execution α) : Prop where
  begun : s'.governor.begun = s.governor.begun
  affected : s'.governor.affected = s.governor.affected
  place : s.governor.SamePlace s'.governor
  report : s.report.Adds s'.report

namespace Undisturbed

theorem refl (s : Execution α) : Undisturbed s s := ⟨rfl, rfl, .refl _, .refl _⟩

theorem trans {s₁ s₂ s₃ : Execution α} (h : Undisturbed s₁ s₂) (h' : Undisturbed s₂ s₃) :
    Undisturbed s₁ s₃ where
  begun := h'.begun.trans h.begun
  affected := h'.affected.trans h.affected
  place := h.place.trans h'.place
  report := h.report.trans h'.report

theorem of_report {s : Execution α} {r : Report α} (h : s.report.Adds r) :
    Undisturbed s { s with report := r } := ⟨rfl, rfl, ⟨rfl, rfl, rfl⟩, h⟩

theorem of_drawn {s s' : Execution α} (h : s.Drawn s') : Undisturbed s s' := by
  obtain ⟨stream, rfl⟩ := h
  exact ⟨rfl, rfl, ⟨rfl, rfl, rfl⟩, .refl _⟩

theorem of_moves {M : Execution α → Execution α → Prop} (hM : ∀ {s s'}, M s s' → Undisturbed s s')
    {s s' : Execution α} (h : Relation.ReflTransGen M s s') : Undisturbed s s' := by
  induction h with
  | refl => exact refl s
  | tail _ last ih => exact ih.trans (hM last)

end Undisturbed

namespace Run

variable {s : Execution α}

theorem calm_note {f : Report α → Report α} (h : s.report.Adds (f s.report)) :
    (Run.note f).Takes Undisturbed s :=
  .single rfl (.of_report h)

end Run

variable [Scalar α]

theorem Write.adds {v : Vocabulary} {bounds : Bounds α} {target : EntityId} {e e' : Entity α}
    {f : Report α → Report α} (h : Write v bounds target e e' f) (r : Report α) : r.Adds (f r) := by
  cases h with
  | applyStatus => exact Report.adds_status _ r
  | removeStatus =>
      dsimp only
      split
      · exact .refl r
      · exact Report.adds_change _ r
  | _ => exact Report.adds_change _ r

theorem Move.undisturbed {c : Cast α} {target : EntityId} {s s' : Execution α}
    (h : Move c target s s') : Undisturbed s s' := by
  have clamped (short : Prop) [Decidable short] (clamp : Clamp α) (clamps : Array (Clamp α)) :
      clamps.toList <+: (if short then clamps.push clamp else clamps).toList := by
    split
    · exact Report.prefix_push ..
    · exact List.prefix_rfl
  cases h with
  | draw drawn => exact .of_drawn drawn
  | restore => exact .of_report { Report.Adds.refl s.report with }
  | wound | allot =>
      exact ⟨rfl, rfl, ⟨rfl, rfl, rfl⟩, { Report.Adds.refl s.report with clamps := clamped .. }⟩
  | spawn =>
      exact ⟨rfl, rfl, ⟨rfl, rfl, rfl⟩,
        { Report.Adds.refl s.report with
          changes := Report.prefix_push ..
          spawned := Report.prefix_push .. }⟩
  | emit event =>
      exact ⟨rfl, rfl, ⟨rfl, rfl, rfl⟩,
        { Report.Adds.refl s.report with events := Report.prefix_push .. }⟩
  | write found written => exact ⟨rfl, rfl, ⟨rfl, rfl, rfl⟩, written.adds _⟩

theorem Run.Takes.undisturbed {β : Type} {c : Cast α} {target : EntityId} {m : Run α β}
    {s : Execution α} (h : m.Takes (Move c target) s) : m.Takes Undisturbed s where
  ok hr := .single (.of_moves Move.undisturbed (h.ok hr))
  error hr := ⟨.single (.of_moves Move.undisturbed (h.error hr).1), (h.error hr).2⟩

/-! ## Evaluations -/

namespace Cast

open Run

variable {c : Cast α} {s : Execution α}

theorem reads_conditionsHold {passed : Prop} (target : Option EntityId) (conditions : List (Expr α)) :
    (c.conditionsHold target conditions).Reads passed s := by
  induction conditions generalizing s with
  | nil => exact .pure rfl
  | cons e es ih =>
      refine .get_bind (.bind (.evaluation (e.raises_evalBool _)) fun _ => ?_)
      split
      · exact ih
      · exact .pure rfl

theorem reads_resolve (selector : Selector α) (origin : EntityId)
    (designated : Option EntityId) :
    (c.resolve selector origin designated).Reads (selector.shape.check = .ok ()) s :=
  .get_bind (.draw (selector.raises_resolve ..))

omit [Scalar α] in
theorem calm_of_reads {β : Type} {m : Run α β} (passed : Prop) (h : m.Reads passed s) :
    m.Takes Undisturbed s :=
  h.takes .of_drawn fun same => same ▸ .refl

theorem calm_conditionsHold (target : Option EntityId) (conditions : List (Expr α)) :
    (c.conditionsHold target conditions).Takes Undisturbed s :=
  calm_of_reads True (reads_conditionsHold target conditions)

theorem calm_resolve (selector : Selector α) (origin : EntityId) (designated : Option EntityId) :
    (c.resolve selector origin designated).Takes Undisturbed s :=
  calm_of_reads _ (reads_resolve selector origin designated)

theorem calm_evalBool (target : EntityId) (e : Expr α) :
    (c.evalBool target e).Takes Undisturbed s :=
  calm_of_reads True (reads_evalBool e)

theorem calm_evalCount (target : EntityId) (what : String) (e : Expr α) :
    (c.evalCount target what e).Takes Undisturbed s :=
  calm_of_reads True (reads_evalCount what e)

theorem calm_delay (target : EntityId) (ticks : Expr α) (body : List (Operation α)) :
    (c.delay target ticks body).Takes Undisturbed s :=
  (calm_evalCount target _ ticks).bind fun _ => calm_note (Report.adds_schedule _ _)

end Cast

end Grimoire
