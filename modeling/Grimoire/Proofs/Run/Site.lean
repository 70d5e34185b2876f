import Grimoire.Proofs.Run.Alongside

/-! # Places in lists of operations

A place lies between two operations of a list, and the list may be the body of another operation, and so
on.  `Site.fill` puts operations there.

A run of a filled list comes by the place as often as it is started, which conditions and counts decide on
the way.  A `Watch` is a run together with how often it comes by; it is put together as runs are, so what
is watched is the run itself.  If the place holds a wrapper, the run with its operations in its stead goes
alongside, and is behind by one operation for every time that the wrapper was come by.
-/

namespace Grimoire

open Run

variable {α β γ : Type}

/-! ## Sites -/

/-- An operation without one of its bodies. -/
inductive Frame (α : Type) where
  | accepted (condition : Expr α) (other : Option (List (Operation α)))
  | refused (condition : Expr α) (other : List (Operation α))
  | iterate (times : Expr α)
  | delay (ticks : Expr α)

def Frame.close (ops : List (Operation α)) : Frame α → Operation α
  | accepted condition other => .conditional condition ops other
  | refused condition other => .conditional condition other (some ops)
  | iterate times => .iterate times ops
  | delay ticks => .delay ticks ops

/-- A place in a list of operations. -/
inductive Site (α : Type) where
  | here (before after : List (Operation α))
  | inside (before : List (Operation α)) (frame : Frame α) (site : Site α)
      (after : List (Operation α))

namespace Site

def fill (ops : List (Operation α)) : Site α → List (Operation α)
  | here before after => before ++ (ops ++ after)
  | inside before frame site after => before ++ frame.close (site.fill ops) :: after

/-- Where a place in a delayed body is in that body, the outermost one. -/
def deferred? : Site α → Option (Site α)
  | here .. => none
  | inside _ (.delay _) site _ => some site
  | inside _ _ site _ => site.deferred?

theorem deferred?_inside {frame : Frame α} (prompt : ∀ ticks, frame ≠ .delay ticks)
    (before after : List (Operation α)) (site : Site α) :
    (inside before frame site after).deferred? = site.deferred? := by
  cases frame with
  | delay ticks => exact absurd rfl (prompt ticks)
  | _ => rfl

end Site

/-! ## Watches -/

/-- A run with the number of times that it visits some place. -/
structure Watch (α β : Type) where
  run : Run α β
  visits : Execution α → Nat

namespace Watch

def of (m : Run α β) : Watch α β := ⟨m, fun _ => 0⟩

def mark (m : Run α β) : Watch α β := ⟨m, fun _ => 1⟩

def bind (w : Watch α β) (k : β → Watch α γ) : Watch α γ where
  run := do
    let x ← w.run
    (k x).run
  visits s := w.visits s + match w.run s with
    | .ok x s' => (k x).visits s'
    | .error .. => 0

def times : Nat → Watch α Unit → Watch α Unit
  | 0, _ => of (pure ())
  | n + 1, w => w.bind fun _ => times n w

def forEach (w : EntityId → Watch α Unit) : List EntityId → Watch α Unit
  | [] => of (pure ())
  | id :: ids => (w id).bind fun _ => forEach w ids

def within (c : Cast α) (b : Body) (w : Watch α Unit) : Watch α Unit :=
  (of (c.enter b)).bind fun _ => ⟨w.run.andThen b.leave, w.visits⟩

theorem times_run (w : Watch α Unit) (n : Nat) : (times n w).run = Run.times n w.run := by
  induction n with
  | zero => rfl
  | succ n ih =>
      unfold times Run.times bind
      simp only [ih]

theorem forEach_run (w : EntityId → Watch α Unit) (ids : List EntityId) :
    (forEach w ids).run = Run.forEach (fun id => (w id).run) ids := by
  induction ids with
  | nil => rfl
  | cons id ids ih =>
      unfold forEach Run.forEach bind
      simp only [ih]

end Watch

/-! ## Runs that come by -/

namespace Cast

variable [Scalar α] (c : Cast α) (re : Reentry α) (target : EntityId)

def watchFrame (w : Watch α Unit) (ops : List (Operation α)) : Frame α → Watch α Unit
  | .accepted condition other =>
    (Watch.of c.permit).bind fun _ =>
      (Watch.of (c.evalBool target condition)).bind fun met =>
        if met then w.within c .nested
        else match other with
          | none => .of (pure ())
          | some ops => .of (c.within .nested (c.runOperations re target ops))
  | .refused condition other =>
    (Watch.of c.permit).bind fun _ =>
      (Watch.of (c.evalBool target condition)).bind fun met =>
        if met then .of (c.within .nested (c.runOperations re target other)) else w.within c .nested
  | .iterate times =>
    (Watch.of c.permit).bind fun _ =>
      (Watch.of (c.evalCount target "repeat.times" times)).bind fun count =>
        if count = 0 then .of (pure ()) else (w.times count).within c .nested
  | .delay ticks => .of (c.runOperation re target (.delay ticks ops))

/-- Runs a list of operations that holds one at some place, and watches for that one. -/
def watch (op : Operation α) : Site α → Watch α Unit
  | .here before after =>
    (Watch.of (c.runOperations re target before)).bind fun _ =>
      (Watch.mark (c.runOperation re target op)).bind fun _ =>
        .of (c.runOperations re target after)
  | .inside before frame site after =>
    (Watch.of (c.runOperations re target before)).bind fun _ =>
      (c.watchFrame re target (watch op site) (site.fill [op]) frame).bind fun _ =>
        .of (c.runOperations re target after)

theorem watchFrame_run {w : Watch α Unit} {ops : List (Operation α)}
    (h : w.run = c.runOperations re target ops) (frame : Frame α) :
    (c.watchFrame re target w ops frame).run = c.runOperation re target (frame.close ops) := by
  unfold Frame.close runOperation
  cases frame with
  | accepted condition other =>
      refine bind_congr fun _ => bind_congr fun met => ?_
      cases met with
      | true => exact congrArg (fun inner => c.within .nested inner) h
      | false => cases other <;> rfl
  | refused condition other =>
      refine bind_congr fun _ => bind_congr fun met => ?_
      cases met with
      | true => rfl
      | false => exact congrArg (fun inner => c.within .nested inner) h
  | iterate times =>
      refine bind_congr fun _ => bind_congr fun count => ?_
      rw [apply_ite Watch.run]
      refine if_congr Iff.rfl rfl (congrArg (fun inner => c.within .nested inner) ?_)
      rw [Watch.times_run, h]
  | delay ticks =>
      unfold watchFrame runOperation
      rfl

theorem watch_run (op : Operation α) (site : Site α) :
    (c.watch re target op site).run = c.runOperations re target (site.fill [op]) := by
  induction site with
  | here before after =>
      unfold Site.fill
      rw [runOperations_append, List.singleton_append, runOperations_cons]
      rfl
  | inside before frame site after ih =>
      unfold Site.fill
      rw [runOperations_append, runOperations_cons, ← c.watchFrame_run re target ih frame]
      rfl

end Cast

/-! ## Runs that go alongside -/

/-- The run ends like the watched one, with one operation fewer for every visit. -/
structure Watch.Sheds (swaps : Request α → Request α → Prop) (w : Watch α β) (m : Run α β) :
    Prop where
  meets : ∀ {k s s'}, s.Alongside swaps k s' →
    Meets (Execution.Alongside swaps (k + w.visits s)) (w.run s) (m s')

namespace Watch.Sheds

variable {swaps : Request α → Request α → Prop}

theorem of {m m' : Run α β} (h : ∀ k, m.Coupled (Execution.Alongside swaps k) m') :
    (Watch.of m).Sheds swaps m' := ⟨fun near => (h _).meets near⟩

theorem pure (x : β) : (Watch.of (Pure.pure x : Run α β)).Sheds swaps (Pure.pure x) :=
  of fun _ => .pure x

theorem bind {w : Watch α β} {m : Run α β} {next : β → Watch α γ} {next' : β → Run α γ}
    (h : w.Sheds swaps m) (hn : ∀ x, (next x).Sheds swaps (next' x)) :
    (w.bind next).Sheds swaps (m >>= next') := by
  constructor
  intro k s s' near
  have first := h.meets near
  unfold Watch.bind
  cases ran : w.run s with
  | ok x t =>
      rw [ran] at first
      obtain ⟨t', ran', near⟩ := first.of_ok
      simp only [ran]
      rw [bind_ok ran, bind_ok ran', ← Nat.add_assoc]
      exact (hn x).meets near
  | error fault t =>
      rw [ran] at first
      obtain ⟨t', ran', near⟩ := first.of_error
      simp only [ran]
      rw [bind_error ran, bind_error ran']
      exact .error near

theorem ite {condition : Prop} [Decidable condition] {w₁ w₂ : Watch α β} {m₁ m₂ : Run α β}
    (yes : w₁.Sheds swaps m₁) (no : w₂.Sheds swaps m₂) :
    (if condition then w₁ else w₂).Sheds swaps (if condition then m₁ else m₂) := by
  split
  · exact yes
  · exact no

theorem times {w : Watch α Unit} {m : Run α Unit} (h : w.Sheds swaps m) (n : Nat) :
    (Watch.times n w).Sheds swaps (Run.times n m) := by
  induction n with
  | zero => exact pure ()
  | succ n ih => exact h.bind fun _ => ih

theorem forEach {w : EntityId → Watch α Unit} {m : EntityId → Run α Unit}
    (h : ∀ id, (w id).Sheds swaps (m id)) (ids : List EntityId) :
    (Watch.forEach w ids).Sheds swaps (Run.forEach m ids) := by
  induction ids with
  | nil => exact pure ()
  | cons id ids ih => exact (h id).bind fun _ => ih

theorem within {c : Cast α} (free : c.Unmetered) (b : Body) {w : Watch α Unit} {m : Run α Unit}
    (h : w.Sheds swaps m) : (w.within c b).Sheds swaps (c.within b m) := by
  refine (of fun _ => free.coupled_enter b).bind fun _ => ⟨fun near => ?_⟩
  exact (h.meets near).andThen (Cast.alongside_leave b)

end Watch.Sheds

namespace Cast

variable [Scalar α] {c : Cast α} {re : Reentry α} {target : EntityId}
  {swaps : Request α → Request α → Prop}

theorem sheds_frame (free : c.Unmetered) (alike : ∀ k, c.Likeness (Execution.Alongside swaps k))
    (h : ∀ k, re.Coupled (Execution.Alongside swaps k)) {w : Watch α Unit} {ops ops' : List (Operation α)}
    (sheds : w.Sheds swaps (c.runOperations re target ops')) {frame : Frame α}
    (prompt : ∀ ticks, frame ≠ .delay ticks) :
    (c.watchFrame re target w ops frame).Sheds swaps (c.runOperation re target (frame.close ops')) := by
  have permit := Watch.Sheds.of fun k => (alike k).permit
  have decides (condition : Expr α) := Watch.Sheds.of fun k => (alike k).evalBool target condition
  have others (ops : List (Operation α)) :
      (Watch.of (c.within .nested (c.runOperations re target ops))).Sheds swaps
        (c.within .nested (c.runOperations re target ops)) :=
    .of fun k => (alike k).within .nested ((alike k).operations (h k) target ops)
  unfold Frame.close runOperation
  cases frame with
  | accepted condition other =>
      refine permit.bind fun _ => (decides condition).bind fun met => ?_
      refine .ite (sheds.within free .nested) ?_
      cases other with
      | none => exact .pure ()
      | some ops => exact others ops
  | refused condition other =>
      refine permit.bind fun _ => (decides condition).bind fun met => ?_
      exact .ite (others other) (sheds.within free .nested)
  | iterate times =>
      refine permit.bind fun _ => ?_
      refine (Watch.Sheds.of fun k => (alike k).evalCount target _ times).bind fun count => ?_
      exact .ite (.pure ()) ((sheds.times count).within free .nested)
  | delay ticks => exact absurd rfl (prompt ticks)

/-- A list that holds operations in place of a wrapper goes alongside the list with the wrapper. -/
theorem sheds_site [Scalar.Counting α] (free : c.Unmetered) (same : ∀ q, swaps q q)
    (h : ∀ k, re.Coupled (Execution.Alongside swaps k)) {wrapper : Operation α}
    {ops : List (Operation α)} (unwraps : wrapper.Unwraps ops) (target : EntityId) {site : Site α}
    (recorded : ∀ inner, site.deferred? = some inner → ∀ q : Request α,
      q.work = .operations target (inner.fill [wrapper]) →
        swaps q { q with work := .operations target (inner.fill ops) }) :
    (c.watch re target wrapper site).Sheds swaps (c.runOperations re target (site.fill ops)) := by
  have alike (k : Nat) : c.Likeness (Execution.Alongside swaps k) := free.likeness same
  have others (ops : List (Operation α)) :
      (Watch.of (c.runOperations re target ops)).Sheds swaps (c.runOperations re target ops) :=
    .of fun k => (alike k).operations (h k) target ops
  induction site with
  | here before after =>
      unfold Site.fill
      rw [runOperations_append, runOperations_append]
      refine (others before).bind fun _ => Watch.Sheds.bind ⟨fun {k s s'} near => ?_⟩ fun _ => others after
      exact free.meets_wrapper (fun k ops => (alike k).operations (h k) target ops) unwraps near
  | inside before frame site after ih =>
      unfold Site.fill
      rw [runOperations_append, runOperations_cons]
      refine (others before).bind fun _ => Watch.Sheds.bind ?_ fun _ => others after
      by_cases delayed : ∃ ticks, frame = .delay ticks
      · obtain ⟨ticks, rfl⟩ := delayed
        unfold watchFrame Frame.close runOperation
        exact .of fun k => (alike k).permit.bind fun _ => coupled_delay (recorded site rfl) ticks
      · have prompt (ticks : Expr α) (own : frame = .delay ticks) : False := delayed ⟨ticks, own⟩
        rw [Site.deferred?_inside prompt] at recorded
        exact sheds_frame free alike h (ih recorded) prompt

end Cast

end Grimoire
