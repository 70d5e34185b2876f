import Grimoire.Proofs.Run.Faults
import Mathlib.Logic.Relation

/-! # Runs as sequences of moves

A run is described by the moves it is made of: `Run.Takes M m s` says that the run `m` leads from the
state `s` to its last state by moves of `M`, whether it succeeds or fails, and that it fails for no
ceiling.  Whatever every move keeps, the run keeps.  The rule for a sequence hands on what the first
part answered and where it stopped, so later parts know what was checked and read before.

Most runs are simpler than that.  `Run.Atomic R m s` says that `m` reads first, which may draw random
numbers and may fail, and then does a single thing `R`, which does not fail.
-/

namespace Grimoire

open Relation (ReflTransGen)

namespace Run

variable {α β γ : Type}

/-! ## Equations of the steps -/

theorem get_bind {σ : Type} (k : σ → EStateM Fault σ β) (s : σ) : (get >>= k) s = k s s := rfl

theorem govern_ok {step : Governed α β} {s : Execution α} {x : β} {g : Governor α}
    (h : step s.governor = .ok x g) : Run.govern step s = .ok x { s with governor := g } := by
  simp only [Run.govern, h]

theorem govern_error {step : Governed α β} {s : Execution α} {fault : Fault} {g : Governor α}
    (h : step s.governor = .error fault g) :
    Run.govern step s = .error fault { s with governor := g } := by
  simp only [Run.govern, h]

theorem check_of_ok {c : Except Fault β} {x : β} (h : c = .ok x) (s : Execution α) :
    Run.check c s = .ok x s := by
  rw [h]
  rfl

theorem check_of_error {c : Except Fault β} {fault : Fault} (h : c = .error fault)
    (s : Execution α) : Run.check c s = .error fault s := by
  rw [h]
  rfl

theorem check_ok {c : Except Fault β} {s s' : Execution α} {x : β} (h : Run.check c s = .ok x s') :
    c = .ok x ∧ s' = s := by
  cases c with
  | ok y => cases h; exact ⟨rfl, rfl⟩
  | error fault => cases h

theorem onEntity_none {id : EntityId} {step : Entity α → Run α Unit} {s : Execution α}
    (h : s.world.entity? id = none) : onEntity id step s = .ok () s := by
  simp only [onEntity, get_bind, h]
  rfl

theorem onEntity_some {id : EntityId} {step : Entity α → Run α Unit} {s : Execution α} {e : Entity α}
    (h : s.world.entity? id = some e) : onEntity id step s = step e s := by
  simp only [onEntity, get_bind, h]

/-! ## Moves -/

/-- From a state, a run is made of moves and fails for no ceiling. -/
structure Takes (M : Execution α → Execution α → Prop) (m : Run α β) (s : Execution α) : Prop where
  ok : ∀ {x s'}, m s = .ok x s' → ReflTransGen M s s'
  error : ∀ {fault s'}, m s = .error fault s' → ReflTransGen M s s' ∧ fault.IsPlain

namespace Takes

variable {M : Execution α → Execution α → Prop} {s : Execution α}

theorem pure (x : β) : (Pure.pure x : Run α β).Takes M s :=
  ⟨fun h => by cases h; exact .refl, fun h => by cases h⟩

theorem throw {fault : Fault} (h : fault.IsPlain) :
    (MonadExcept.throw fault : Run α β).Takes M s :=
  ⟨fun hr => (by cases hr), fun hr => by cases hr; exact ⟨.refl, h⟩⟩

theorem bind {m : Run α β} {k : β → Run α γ} (hm : m.Takes M s)
    (hk : ∀ {x s'}, m s = .ok x s' → (k x).Takes M s') : (m >>= k).Takes M s := by
  cases h : m s with
  | ok x s₁ =>
      have next := hk h
      constructor
      · intro y s' hr
        rw [bind_ok h] at hr
        exact (hm.ok h).trans (next.ok hr)
      · intro fault s' hr
        rw [bind_ok h] at hr
        exact ⟨(hm.ok h).trans (next.error hr).1, (next.error hr).2⟩
  | error fault s₁ =>
      constructor
      · intro y s' hr
        rw [bind_error h] at hr
        cases hr
      · intro raised s' hr
        rw [bind_error h] at hr
        cases hr
        exact hm.error h

theorem single {m : Run α β} {x : β} {s' : Execution α} (h : m s = .ok x s') (hM : M s s') :
    m.Takes M s :=
  ⟨fun hr => by rw [h] at hr; cases hr; exact .single hM, fun hr => by rw [h] at hr; cases hr⟩

theorem check {c : Except Fault β} (h : Plain c) : (Run.check c : Run α β).Takes M s := by
  cases c with
  | ok x => exact pure x
  | error fault => exact throw (h.fault rfl)

end Takes

/-! ## Reading before acting -/

end Run

/-- Whether two states differ in the random stream alone. -/
def Execution.Drawn {α : Type} (s s' : Execution α) : Prop :=
  ∃ stream, s' = { s with stream := stream }

namespace Execution.Drawn

variable {α : Type} {s s₁ s₂ s₃ : Execution α}

theorem refl (s : Execution α) : s.Drawn s := ⟨s.stream, rfl⟩

theorem trans (h : s₁.Drawn s₂) (h' : s₂.Drawn s₃) : s₁.Drawn s₃ := by
  obtain ⟨stream, rfl⟩ := h
  obtain ⟨stream', rfl⟩ := h'
  exact ⟨stream', rfl⟩

theorem world (h : s.Drawn s₁) : s₁.world = s.world := by
  obtain ⟨stream, rfl⟩ := h
  rfl

theorem governor (h : s.Drawn s₁) : s₁.governor = s.governor := by
  obtain ⟨stream, rfl⟩ := h
  rfl

theorem report (h : s.Drawn s₁) : s₁.report = s.report := by
  obtain ⟨stream, rfl⟩ := h
  rfl

end Execution.Drawn

namespace Run

variable {α β γ : Type}

/-- From a state, a run reads and then does a single thing.  If it fails, it fails while it reads, for
no ceiling, and for no static check if those have passed. -/
structure Atomic (passed : Prop) (R : β → Execution α → Execution α → Prop) (m : Run α β)
    (s : Execution α) : Prop where
  ok : ∀ {x s'}, m s = .ok x s' → ∃ s₁, s.Drawn s₁ ∧ R x s₁ s'
  error : ∀ {fault s'}, m s = .error fault s' → s.Drawn s' ∧ fault.IsUnforeseen passed

abbrev Reads (passed : Prop) (m : Run α β) (s : Execution α) : Prop :=
  m.Atomic passed (fun _ s₁ s' => s' = s₁) s

theorem Reads.drawn {passed : Prop} {m : Run α β} {s s' : Execution α} {x : β}
    (h : m.Reads passed s) (hr : m s = .ok x s') : s.Drawn s' := by
  obtain ⟨s₁, drawn, rfl⟩ := h.ok hr
  exact drawn

namespace Atomic

variable {passed : Prop} {R R' : β → Execution α → Execution α → Prop} {s : Execution α}

theorem pure {x : β} (h : R x s s) : (Pure.pure x : Run α β).Atomic passed R s :=
  ⟨fun hr => by cases hr; exact ⟨s, .refl s, h⟩, fun hr => by cases hr⟩

theorem throw {fault : Fault} (h : fault.IsUnforeseen passed) :
    (MonadExcept.throw fault : Run α β).Atomic passed R s :=
  ⟨fun hr => (by cases hr), fun hr => by cases hr; exact ⟨.refl s, h⟩⟩

theorem of_eq {m : Run α β} {x : β} {s' : Execution α} (h : m s = .ok x s') (hR : R x s s') :
    m.Atomic passed R s :=
  ⟨fun hr => by rw [h] at hr; cases hr; exact ⟨s, .refl s, hR⟩, fun hr => by rw [h] at hr; cases hr⟩

theorem bind {m : Run α γ} {k : γ → Run α β} (hm : m.Reads passed s)
    (hk : ∀ {x s'}, m s = .ok x s' → (k x).Atomic passed R s') : (m >>= k).Atomic passed R s := by
  cases h : m s with
  | ok x s₁ =>
      have drawn := Reads.drawn hm h
      have next := hk h
      constructor
      · intro y s' hr
        rw [bind_ok h] at hr
        obtain ⟨s₂, drawn', acted⟩ := next.ok hr
        exact ⟨s₂, drawn.trans drawn', acted⟩
      · intro fault s' hr
        rw [bind_ok h] at hr
        exact ⟨drawn.trans (next.error hr).1, (next.error hr).2⟩
  | error fault s₁ =>
      constructor
      · intro y s' hr
        rw [bind_error h] at hr
        cases hr
      · intro raised s' hr
        rw [bind_error h] at hr
        cases hr
        exact hm.error h

theorem then_pure {m : Run α γ} {R : γ → Execution α → Execution α → Prop}
    {R' : β → Execution α → Execution α → Prop} {x : β} (h : m.Atomic passed R s)
    (le : ∀ {y s₁ s'}, R y s₁ s' → R' x s₁ s') :
    (m >>= fun _ => Pure.pure x).Atomic passed R' s := by
  cases hm : m s with
  | ok y s' =>
      obtain ⟨s₁, drawn, acted⟩ := h.ok hm
      constructor
      · intro z s'' hr
        rw [bind_ok hm] at hr
        cases hr
        exact ⟨s₁, drawn, le acted⟩
      · intro fault s'' hr
        rw [bind_ok hm] at hr
        cases hr
  | error fault s' =>
      constructor
      · intro z s'' hr
        rw [bind_error hm] at hr
        cases hr
      · intro raised s'' hr
        rw [bind_error hm] at hr
        cases hr
        exact h.error hm

theorem imp {m : Run α β} (h : m.Atomic passed R s)
    (le : ∀ {x s₁ s'}, R x s₁ s' → R' x s₁ s') : m.Atomic passed R' s where
  ok hr := (h.ok hr).imp fun _ ⟨drawn, acted⟩ => ⟨drawn, le acted⟩
  error hr := h.error hr

theorem weaken {m : Run α β} {stronger : Prop} (h : m.Atomic passed R s)
    (implies : stronger → passed) : m.Atomic stronger R s where
  ok hr := h.ok hr
  error hr := ⟨(h.error hr).1, (h.error hr).2.1, fun reason => (h.error hr).2.2 (implies reason)⟩

theorem get_bind {k : Execution α → Run α β} (h : (k s).Atomic passed R s) :
    (get >>= k).Atomic passed R s :=
  ⟨fun hr => h.ok hr, fun hr => h.error hr⟩

theorem check {c : Except Fault β}
    (h : ∀ {fault}, c = .error fault → fault.IsUnforeseen passed) :
    (Run.check c : Run α β).Reads passed s := by
  cases c with
  | ok x => exact pure rfl
  | error fault => exact throw (h rfl)

theorem checked {c : Except Fault β} (plain : Plain c) (static : passed → ∃ x, c = .ok x) :
    (Run.check c : Run α β).Reads passed s := by
  refine check fun refused => ⟨plain.fault refused, fun reason => ?_⟩
  obtain ⟨x, ok⟩ := static reason
  cases refused.symm.trans ok

theorem draw {d : Draw β} (h : d.Raises (Fault.IsUnforeseen passed)) :
    (Run.draw d : Run α β).Reads passed s := by
  cases hd : d s.stream with
  | ok x stream =>
      have eq : (Run.draw d : Run α β) s = .ok x { s with stream := stream } := by
        simp only [Run.draw, hd]
      constructor
      · intro y s' hr
        rw [eq] at hr
        cases hr
        exact ⟨_, ⟨stream, rfl⟩, rfl⟩
      · intro fault s' hr
        rw [eq] at hr
        cases hr
  | error fault stream =>
      have eq : (Run.draw d : Run α β) s = .error fault { s with stream := stream } := by
        simp only [Run.draw, hd]
      constructor
      · intro x s' hr
        rw [eq] at hr
        cases hr
      · intro raised s' hr
        rw [eq] at hr
        cases hr
        exact ⟨⟨stream, rfl⟩, h.fault hd⟩

theorem evaluation {d : Draw β} (h : d.Raises Fault.IsEvaluation) :
    (Run.draw d : Run α β).Reads passed s :=
  draw (h.mono fun _ raised => raised.isUnforeseen passed)

theorem onEntity {R : Unit → Execution α → Execution α → Prop} {id : EntityId}
    {step : Entity α → Run α Unit} (none : R () s s)
    (h : ∀ e, s.world.entity? id = some e → (step e).Atomic passed R s) :
    (Run.onEntity id step).Atomic passed R s := by
  cases he : s.world.entity? id with
  | none => exact of_eq (onEntity_none he) none
  | some e =>
      have eq : Run.onEntity id step s = step e s := onEntity_some he
      exact ⟨fun hr => (h e he).ok (eq ▸ hr), fun hr => (h e he).error (eq ▸ hr)⟩

theorem onSlot {R : Unit → Execution α → Execution α → Prop} {id : EntityId} {slot : Slot α β}
    {step : Entity α → β → Run α Unit} (none : R () s s)
    (h : ∀ e x, s.world.entity? id = some e → e.get? slot = some x →
      (step e x).Atomic passed R s) :
    (Run.onSlot id slot step).Atomic passed R s := by
  refine onEntity none fun e he => ?_
  cases hx : e.get? slot with
  | none => exact pure none
  | some x => exact h e x he hx

theorem takes {M : Execution α → Execution α → Prop} {m : Run α β} (h : m.Atomic passed R s)
    (drawn : ∀ {s s'}, s.Drawn s' → M s s')
    (acted : ∀ {x s₁ s'}, R x s₁ s' → ReflTransGen M s₁ s') : m.Takes M s where
  ok hr := by
    obtain ⟨s₁, read, did⟩ := h.ok hr
    exact (acted did).head (drawn read)
  error hr := ⟨.single (drawn (h.error hr).1), (h.error hr).2.1⟩

end Atomic

end Run

end Grimoire
