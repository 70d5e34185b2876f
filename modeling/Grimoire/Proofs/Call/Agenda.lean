import Grimoire.Proofs.Call.Step

/-! # What can stand on an agenda

The bodies of an agenda, and the invariant that a body which is opened or closed belongs to what is
done in it: a chain and a trigger run the effect that is registered under their id.
-/

namespace Grimoire

variable {α : Type}

/-! ## The open bodies of an agenda -/

namespace Moment

@[simp] theorem bodiesOf_nil : bodiesOf ([] : List (Pending α)) = [] := rfl

theorem bodiesOf_cons {p : Pending α} (h : p.body? = none) (rest : List (Pending α)) :
    bodiesOf (p :: rest) = bodiesOf rest := List.filterMap_cons_none h

@[simp] theorem bodiesOf_close (b : Body) (rest : List (Pending α)) :
    bodiesOf (.close b :: rest) = b :: bodiesOf rest := rfl

@[simp] theorem bodiesOf_append (more rest : List (Pending α)) :
    bodiesOf (more ++ rest) = bodiesOf more ++ bodiesOf rest := List.filterMap_append

theorem bodies_of_nil {m : Moment α} (nothing : m.agenda = []) : m.bodies = [] :=
  congrArg bodiesOf nothing

end Moment

namespace Pending

theorem body?_of_isQuiet {p : Pending α} (h : p.isQuiet = true) : p.body? = none := by
  cases p with
  | close => cases h
  | _ => rfl

theorem eq_close_of_body? {p : Pending α} {b : Body} (h : p.body? = some b) : p = .close b := by
  cases p with
  | close => cases h; rfl
  | _ => cases h

theorem Leads.bodiesOf_eq {c : Cast α} {p : Pending α} {more : List (Pending α)}
    (h : p.Leads c more) : Moment.bodiesOf more = [] := by
  cases h <;> rfl

end Pending

/-! ## Sound agendas -/

/-- Whether the effect of a body, if it has one, is registered. -/
def Body.Registered (c : Cast α) (b : Body) : Prop :=
  ∀ id, b.effect? = some id → ∃ e, c.book.require id = .ok e

/-- What a body is opened for. -/
inductive Body.Runs (c : Cast α) : Body → Pending α → Prop where
  | operations (target ops) : Runs c .nested (.operations target ops)
  | rounds (target n body) : Runs c .nested (.rounds target n body)
  | chained {id e} (target newTarget) (found : c.book.require id = .ok e) :
      Runs c (.chain id) (.chained target e newTarget)
  | triggered {id e} (target) (found : c.book.require id = .ok e) :
      Runs c (.trigger id) (.triggered target e)

/-- Whether an entry opens a body for what belongs into it, or closes one that can be open. -/
def Pending.Sound (c : Cast α) : Pending α → Prop
  | .enter b inner => b.Runs c inner
  | .close b => b.Registered c
  | _ => True

namespace Body.Runs

variable {c : Cast α} {b : Body} {inner : Pending α}

theorem body?_eq (h : b.Runs c inner) : inner.body? = none := by
  cases h <;> rfl

theorem sound (h : b.Runs c inner) : inner.Sound c := by
  cases h <;> trivial

theorem registered (h : b.Runs c inner) : b.Registered c := by
  intro id runs
  cases h with
  | operations | rounds => cases runs
  | chained _ _ found | triggered _ found => cases runs; exact ⟨_, found⟩

end Body.Runs

theorem Pending.Leads.sound {c : Cast α} {p : Pending α} {more : List (Pending α)}
    (h : p.Leads c more) : ∀ q ∈ more, q.Sound c := by
  cases h with
  | done => exact fun q hq => absurd hq (List.not_mem_nil)
  | chain target newTarget found =>
      exact List.forall_mem_singleton.mpr (.chained target newTarget found)
  | trigger target found => exact List.forall_mem_singleton.mpr (.triggered target found)
  | accepted | refused => exact List.forall_mem_singleton.mpr (.operations ..)
  | rounds => exact List.forall_mem_singleton.mpr (.rounds ..)
  | round => exact List.forall_mem_cons.mpr ⟨trivial, List.forall_mem_singleton.mpr trivial⟩
  | _ => exact List.forall_mem_singleton.mpr trivial

/-! ## What entries hand on -/

/-- Whether a property of an entry is one of whatever stands in its place after a step. -/
structure Pending.Inherited (c : Cast α) (P : Pending α → Prop) : Prop where
  leads {p more} (leads : p.Leads c more) (before : P p) : ∀ q ∈ more, P q
  targets {id ids ops} (before : P (.targets (id :: ids) ops)) :
    P (.operations id ops) ∧ P (.targets ids ops)
  operations {target op ops} (before : P (.operations target (op :: ops))) :
    P (.dispatch target op) ∧ P (.operations target ops)
  enter {b inner} (before : P (.enter b inner)) : P inner ∧ P (.close b)

theorem Pending.Inherited.transition [Scalar α] {c : Cast α} {P : Pending α → Prop}
    (h : Inherited c P) {m m' : Moment α} (transition : c.Transition m m')
    (before : ∀ p ∈ m.agenda, P p) : ∀ p ∈ m'.agenda, P p := by
  have two {p q q' : Pending α} {rest : List (Pending α)} (split : P p → P q ∧ P q')
      (before : ∀ r ∈ p :: rest, P r) : ∀ r ∈ q :: q' :: rest, P r := by
    obtain ⟨first, others⟩ := List.forall_mem_cons.mp before
    exact List.forall_mem_cons.mpr
      ⟨(split first).1, List.forall_mem_cons.mpr ⟨(split first).2, others⟩⟩
  cases transition with
  | idle => exact before
  | drop | close => exact (List.forall_mem_cons.mp before).2
  | leads rest quiet leads calm =>
      obtain ⟨first, others⟩ := List.forall_mem_cons.mp before
      exact List.forall_mem_append.mpr ⟨h.leads leads first, others⟩
  | fails | crowded | overruns | late | refuses => exact (List.forall_mem_cons.mp before).2
  | known | meets => exact two h.targets before
  | counts => exact two h.operations before
  | opens => exact two h.enter before

/-! ## Sound moments -/

def Moment.Sound (c : Cast α) (m : Moment α) : Prop := ∀ p ∈ m.agenda, p.Sound c

theorem Pending.inherited_sound (c : Cast α) : Inherited c (Pending.Sound c) where
  leads leads _ := leads.sound
  targets _ := ⟨trivial, trivial⟩
  operations _ := ⟨trivial, trivial⟩
  enter runs := ⟨Body.Runs.sound runs, Body.Runs.registered runs⟩

theorem Moment.Sound.opening [Scalar α] (i : Interpreter α) (call : Call α) (w : World α)
    (clock : Clock) :
    (i.opening call w clock).Sound (i.cast call.caster w clock) := by
  have opening := i.opening_cases call w clock
  generalize i.opening call w clock = m at opening
  cases opening with
  | refused | stopped => exact fun p hp => absurd hp List.not_mem_nil
  | ready prepared => cases prepared <;> exact List.forall_mem_singleton.mpr trivial

namespace Interpreter

variable [Scalar α] (i : Interpreter α) (call : Call α) (w : World α) (clock : Clock)

theorem moment_succ (n : Nat) :
    i.moment call w clock (n + 1) =
      (i.cast call.caster w clock).step (i.moment call w clock n) := rfl

variable {i call w clock}

theorem moment_inherited {P : Pending α → Prop}
    (h : Pending.Inherited (i.cast call.caster w clock) P)
    (opening : ∀ p ∈ (i.opening call w clock).agenda, P p) (n : Nat) :
    ∀ p ∈ (i.moment call w clock n).agenda, P p := by
  induction n with
  | zero => exact opening
  | succ n ih => exact h.transition (Cast.step_transition ..) ih

variable (i call w clock)

theorem moment_sound (n : Nat) :
    (i.moment call w clock n).Sound (i.cast call.caster w clock) :=
  moment_inherited (Pending.inherited_sound _) (Moment.Sound.opening i call w clock) n

variable {i call w clock}

/-- An invariant of steps that holds at the opening of a call holds at every moment. -/
theorem moment_invariant {P : Moment α → Prop} (opening : P (i.opening call w clock))
    (transition : ∀ {m m'}, m.Sound (i.cast call.caster w clock) →
      (i.cast call.caster w clock).Transition m m' → P m → P m') (n : Nat) :
    P (i.moment call w clock n) := by
  induction n with
  | zero => exact opening
  | succ n ih => exact transition (i.moment_sound call w clock n) (Cast.step_transition ..) ih

end Interpreter

end Grimoire
