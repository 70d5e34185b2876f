import Grimoire.Proofs.Run.Ceilings
import Grimoire.Proofs.Run.Cost
import Grimoire.Proofs.Run.Indifferent

/-! # Wrappers add nothing but their own count

A repetition whose count is written out, and a conditional whose condition is `true` or `false`, do
nothing that the operations in them would not do in their place.  A run with such a wrapper goes
alongside the run without it: under no ceiling of operations or of depth and without a timeout, nothing
asks how many operations have been begun or how deep the bodies lie that are open, so the two states stay
the same but for these numbers, and but for requests in which the one has written what the other has
unwrapped.
-/

namespace Grimoire

open Run

variable {α β : Type}

/-! ## States that differ in what they have counted -/

/-- A state with other counts of operations and of depth, and with other requests. -/
def Execution.recount (s : Execution α) (begun depth : Nat) (operations : UInt32)
    (scheduled : Array (Request α)) : Execution α :=
  { s with
    governor := { s.governor with begun := begun, depth := depth }
    report := { s.report with operations := operations, scheduled := scheduled } }

/-- A state, and one in which `k` operations less have been begun and counted, and in which some requests
stand in place of others. -/
inductive Execution.Alongside (swaps : Request α → Request α → Prop) (k : Nat) (s : Execution α) :
    Execution α → Prop where
  | intro {begun depth scheduled} (counted : s.Counted) (more : s.governor.begun = begun + k)
      (asked : List.Forall₂ swaps s.report.scheduled.toList scheduled.toList) :
      Alongside swaps k s (s.recount begun depth (.ofNat begun) scheduled)

variable {swaps : Request α → Request α → Prop} {k : Nat}

/-- A variation that puts fixed counts and requests in place of those of a state. -/
def Variation.recounted (begun depth : Nat) (operations : UInt32) (scheduled : Array (Request α)) :
    Variation α where
  begun _ := begun
  depth _ := depth
  operations _ := operations
  scheduled _ := scheduled

/-- A run that does not depend on the counters and requests is coupled with itself. -/
theorem Run.Coupled.of_indifferent {m : Run α β}
    (h : ∀ other : Variation α, other.stream = id → m.Indifferent other) :
    m.Coupled (Execution.Alongside swaps k) m := by
  have fixed (begun depth : Nat) (operations : UInt32) (scheduled : Array (Request α))
      (s : Execution α) : m (s.recount begun depth operations scheduled) =
        (Variation.recounted begun depth operations scheduled).result (m s) :=
    (h (Variation.recounted begun depth operations scheduled) rfl).same s
  constructor
  rintro s _ ⟨counted, more, asked⟩
  have kept : m s = _ := fixed s.governor.begun s.governor.depth s.report.operations
    s.report.scheduled s
  rw [fixed]
  cases ran : m s with
  | ok x t =>
      rw [ran] at kept
      injection kept with _ kept
      rw [kept]
      exact .ok (.intro counted more asked)
  | error fault t =>
      rw [ran] at kept
      injection kept with _ kept
      rw [kept]
      exact .error (.intro counted more asked)

/-! ## Single steps -/

namespace Cast

variable {c : Cast α}

/-- Whether operations and open bodies are counted for no ceiling, and time runs out for nothing. -/
structure Unmetered (c : Cast α) : Prop where
  operations : c.settings.limits.operations = none
  depth : c.settings.limits.depth = none
  timeout : c.settings.limits.timeout = none

namespace Unmetered

variable (free : c.Unmetered)
include free

theorem permit_ok (s : Execution α) : c.permit s = .ok () s.count := by
  refine Cast.permit_ok ?_ ?_
  · intro budget limit
    cases free.timeout.symm.trans limit
  · intro most limit
    cases free.operations.symm.trans limit

theorem coupled_permit : c.permit.Coupled (Execution.Alongside swaps k) c.permit := by
  constructor
  rintro s _ @⟨begun, depth, scheduled, counted, more, asked⟩
  have later : s.count.governor.begun = begun + 1 + k :=
    (congrArg (· + 1) more).trans (Nat.add_right_comm begun k 1)
  have near : s.count.Alongside swaps k
      (s.count.recount (begun + 1) depth (.ofNat (begun + 1)) scheduled) :=
    .intro counted.count later asked
  rw [UInt32.ofNat_add] at near
  exact .of_eq (free.permit_ok s) (free.permit_ok _) (.ok near)

theorem coupled_enter (b : Body) : (c.enter b).Coupled (Execution.Alongside swaps k) (c.enter b) := by
  constructor
  rintro s _ ⟨counted, more, asked⟩
  have deep (count : Nat) : Allows c.settings.limits.depth count := by
    intro most limit
    cases free.depth.symm.trans limit
  rcases b.admitted_or_refused c.settings.limits s.governor with room | ⟨fault, refused⟩
  · exact .of_eq (enter_ok room) (enter_ok ⟨room.fresh, room.chains, deep _⟩)
      (.ok (.intro counted more asked))
  · refine .of_eq (enter_refused refused) (enter_refused ?_) (.error (.intro counted more asked))
    cases refused with
    | cycle runs running => exact .cycle runs running
    | chains fresh limit full => exact .chains fresh limit full
    | depth fresh chains limit => cases free.depth.symm.trans limit

end Unmetered

theorem alongside_leave (b : Body) {s s' : Execution α} (near : s.Alongside swaps k s') :
    Execution.Alongside swaps k { s with governor := b.leave s.governor }
      { s' with governor := b.leave s'.governor } := by
  obtain ⟨counted, more, asked⟩ := near
  cases b <;> exact .intro counted more asked

variable [Scalar α]

omit [Scalar α] in
theorem coupled_schedule {q q' : Request α} (swapped : swaps q q') :
    (Run.note (Report.schedule q)).Coupled (Execution.Alongside swaps k)
      (Run.note (Report.schedule q')) := by
  constructor
  rintro s _ @⟨begun, depth, scheduled, counted, more, asked⟩
  refine .ok (.intro counted more ?_)
  change List.Forall₂ swaps (s.report.scheduled.push q).toList (scheduled.push q').toList
  rw [Array.toList_push, Array.toList_push]
  exact List.rel_append asked (.cons swapped .nil)

/-- Two delays request the one and the other version of their operations. -/
theorem coupled_delay {target : EntityId} {body body' : List (Operation α)}
    (swapped : ∀ q : Request α, q.work = .operations target body →
      swaps q { q with work := .operations target body' }) (ticks : Expr α) :
    (c.delay target ticks body).Coupled (Execution.Alongside swaps k) (c.delay target ticks body') := by
  have counted : (c.evalCount target "delay.ticks" ticks).Coupled (Execution.Alongside swaps k) _ :=
    .of_indifferent fun _ still => c.indifferent_evalCount target _ (.inl still)
  exact counted.bind fun n => coupled_schedule (swapped _ rfl)

/-- Without ceilings, steps outside the wrapper keep two runs alongside each other. -/
theorem Unmetered.likeness (free : c.Unmetered) (same : ∀ q, swaps q q) :
    c.Likeness (Execution.Alongside swaps k) where
  permit := free.coupled_permit
  perform target _ :=
    .of_indifferent fun _ still => c.indifferent_perform target fun _ _ => .inl still
  evalBool target _ := .of_indifferent fun _ still => c.indifferent_evalBool target (.inl still)
  evalCount target what _ :=
    .of_indifferent fun _ still => c.indifferent_evalCount target what (.inl still)
  delay _ ticks _ := coupled_delay (fun q work => work ▸ same q) ticks
  enter := free.coupled_enter
  leave b := alongside_leave b
  enroll target := .of_indifferent fun _ _ => c.indifferent_enroll target
  conditionsHold target _ :=
    .of_indifferent fun _ still => c.indifferent_conditionsHold target fun _ _ => .inl still
  resolve _ origin designated :=
    .of_indifferent fun _ still => c.indifferent_resolve (fun _ _ => .inl still) origin designated

end Cast

/-! ## Wrappers -/

/-- What operations stand in a wrapper for: those of all rounds, or those of the branch that is taken. -/
inductive Operation.Unwraps [Scalar α] : Operation α → List (Operation α) → Prop where
  | rounds {times n} (body) (counts : times.Counts n) :
      Unwraps (.iterate times body) (List.replicate n body).flatten
  | accepted (accepted refused) : Unwraps (.conditional (.bool true) accepted refused) accepted
  | refused (accepted refused) : Unwraps (.conditional (.bool false) accepted (some refused)) refused
  | nothing (accepted) : Unwraps (.conditional (.bool false) accepted none) []

namespace Cast

variable [Scalar α] {c : Cast α} {re : Reentry α} {target : EntityId}

theorem runOperations_cons (op : Operation α) (ops : List (Operation α)) :
    c.runOperations re target (op :: ops) = (do
      c.runOperation re target op
      c.runOperations re target ops) := by
  rw [runOperations]

theorem runOperations_append (before after : List (Operation α)) :
    c.runOperations re target (before ++ after) = (do
      c.runOperations re target before
      c.runOperations re target after) := by
  induction before with
  | nil => rfl
  | cons op before ih => rw [List.cons_append, runOperations_cons, runOperations_cons, ih, bind_assoc]

theorem runOperations_replicate (n : Nat) (body : List (Operation α)) :
    c.runOperations re target (List.replicate n body).flatten =
      Run.times n (c.runOperations re target body) := by
  induction n with
  | zero => rfl
  | succ n ih =>
      rw [List.replicate_succ, List.flatten_cons, runOperations_append, ih]
      rfl

theorem evalBool_bool (c : Cast α) (target : EntityId) (t : Bool) :
    c.evalBool target (.bool t) = pure t := rfl

omit [Scalar α] in
theorem Unmetered.meets_nested (free : c.Unmetered) {inner inner' : Run α Unit}
    (h : inner.Coupled (Execution.Alongside swaps k) inner') {s s' : Execution α}
    (near : s.Alongside swaps k s') :
    Meets (Execution.Alongside swaps k) (c.within .nested inner s) (inner' s') := by
  have room : Body.nested.Admitted c.settings.limits s.governor :=
    ⟨nofun, nofun, fun most limit => nomatch free.depth.symm.trans limit⟩
  have inside : (Body.nested.opened s).Alongside swaps k s' := by
    obtain ⟨counted, more, asked⟩ := near
    exact .intro counted more asked
  have met := h.meets inside
  have opened : c.within .nested inner s = inner.andThen Body.nested.leave (Body.nested.opened s) :=
    bind_ok (enter_ok room)
  rw [opened]
  cases ran : inner (Body.nested.opened s) with
  | ok x t =>
      rw [ran] at met
      obtain ⟨t', ran', ⟨counted, more, asked⟩⟩ := met.of_ok
      exact .of_eq (andThen_ok ran) ran' (.ok (.intro counted more asked))
  | error fault t =>
      rw [ran] at met
      obtain ⟨t', ran', ⟨counted, more, asked⟩⟩ := met.of_error
      exact .of_eq (andThen_error ran) ran' (.error (.intro counted more asked))

/-- A wrapper goes alongside its operations, and counts one more. -/
theorem Unmetered.meets_wrapper [Scalar.Counting α] (free : c.Unmetered)
    (h : ∀ k ops, (c.runOperations re target ops).Coupled (Execution.Alongside swaps k)
      (c.runOperations re target ops))
    {wrapper : Operation α} {ops : List (Operation α)} (unwraps : wrapper.Unwraps ops)
    {s s' : Execution α} (near : s.Alongside swaps k s') :
    Meets (Execution.Alongside swaps (k + 1)) (c.runOperation re target wrapper s)
      (c.runOperations re target ops s') := by
  have counted : s.count.Alongside swaps (k + 1) s' := by
    obtain ⟨counted, more, asked⟩ := near
    exact .intro counted.count (congrArg (· + 1) more) asked
  unfold runOperation
  rw [bind_ok (free.permit_ok s)]
  cases unwraps with
  | @rounds times n body counts =>
      dsimp only
      rw [evalCount_counts c target "repeat.times" counts, pure_bind, runOperations_replicate]
      split
      · next none =>
          subst none
          exact .ok counted
      · exact free.meets_nested (.times (h _ body) n) counted
  | accepted accepted refused =>
      dsimp only
      rw [evalBool_bool, pure_bind, if_pos rfl]
      exact free.meets_nested (h _ _) counted
  | refused accepted refused =>
      dsimp only
      rw [evalBool_bool, pure_bind]
      exact free.meets_nested (h _ _) counted
  | nothing accepted =>
      dsimp only
      rw [evalBool_bool, pure_bind]
      exact .ok counted

end Cast

end Grimoire
