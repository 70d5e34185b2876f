import Grimoire.Proofs.Call.Cost
import Grimoire.Proofs.Run.Site

/-! # Wrappers in the operations of a call

A wrapper may lie anywhere in the operations of an effect. Without ceilings, a call of the effect goes
alongside the call of the effect without the wrapper: both have the same outcome and world, and the
reports differ in the number of times the wrapper was dispatched, and in requests that record it.
-/

namespace Grimoire

open Run

variable {α : Type}

/-- An effect that has some operations at a place; its own are only those around the place. -/
def Effect.fill (e : Effect α) (site : Site α) (ops : List (Operation α)) : Effect α :=
  { e with operations := site.fill ops }

/-! ## What is written down -/

/-- A request, and the one that stands in its place if operations have been put for a wrapper. -/
inductive Request.Rewritten (e : Effect α) (site : Site α) (wrapper : Operation α)
    (ops : List (Operation α)) : Request α → Request α → Prop where
  | same (q) : Rewritten e site wrapper ops q q
  | body {inner target} (deferred : site.deferred? = some inner) (q : Request α)
      (work : q.work = .operations target (inner.fill [wrapper])) :
      Rewritten e site wrapper ops q { q with work := .operations target (inner.fill ops) }
  | effect (deferred : e.timing ≠ .immediate) (q : Request α)
      (work : q.work = .effect (e.fill site [wrapper])) :
      Rewritten e site wrapper ops q { q with work := .effect (e.fill site ops) }

/-- A report, and one of `k` operations less, in which some requests stand in place of others. -/
inductive Report.Alongside (swaps : Request α → Request α → Prop) (k : Nat) (r : Report α) :
    Report α → Prop where
  | intro {begun scheduled} (operations : r.operations = .ofNat (begun + k))
      (asked : List.Forall₂ swaps r.scheduled.toList scheduled.toList) :
      Alongside swaps k r { r with operations := .ofNat begun, scheduled := scheduled }

/-- Two calls that end in the same way, and of which the reports go alongside. -/
inductive Outcome.Alongside (swaps : Request α → Request α → Prop) (k : Nat) :
    Outcome α → Outcome α → Prop where
  | ok {r r'} (reports : r.Alongside swaps k r') : Alongside swaps k (.ok r) (.ok r')
  | error {fault r r'} (reports : r.Alongside swaps k r') :
      Alongside swaps k (.error ⟨fault, r⟩) (.error ⟨fault, r'⟩)

variable {swaps : Request α → Request α → Prop} {k : Nat}

namespace Interpreter

theorem finish_alongside {r r' : EStateM.Result Fault (Execution α) Unit}
    (met : Run.Meets (Execution.Alongside swaps k) r r') :
    Outcome.Alongside swaps k (finish r).1 (finish r').1 ∧ (finish r').2 = (finish r).2 := by
  cases met with
  | ok states =>
      obtain ⟨counted, more, asked⟩ := states
      exact ⟨.ok (.intro (counted.trans (congrArg UInt32.ofNat more)) asked), rfl⟩
  | error states =>
      obtain ⟨counted, more, asked⟩ := states
      exact ⟨.error (.intro (counted.trans (congrArg UInt32.ofNat more)) asked), rfl⟩

theorem operations_alongside {r r' : EStateM.Result Fault (Execution α) Unit}
    (met : Run.Meets (Execution.Alongside swaps k) r r') (few : (last r).governor.begun ≤ maxCount) :
    (finish r).1.report.operations.toNat = (finish r').1.report.operations.toNat + k := by
  have counts {s s' : Execution α} (states : s.Alongside swaps k s')
      (few : s.governor.begun ≤ maxCount) :
      s.report.operations.toNat = s'.report.operations.toNat + k := by
    obtain @⟨begun, depth, scheduled, counted, more, asked⟩ := states
    have fewer : begun ≤ maxCount := Nat.le_trans (Nat.le_add_right begun k) (more ▸ few)
    have rest : (s.recount begun depth (.ofNat begun) scheduled).report.operations.toNat = begun :=
      UInt32.toNat_ofNat_of_lt' (Nat.lt_succ_of_le fewer)
    rw [counted, Governor.toNat_operations few, more, rest]
  cases met with
  | ok states => exact counts states few
  | error states => exact counts states few

end Interpreter

variable [Scalar α]

namespace Cast

variable (c : Cast α) (e : Effect α) (target : Option EntityId)

/-! ## Calls that are watched -/

def vet : Run α Unit := do
  Run.check (e.check c.settings.vocabulary)
  if !(← get).world.has c.caster then throw (.validation (.missingCaster c.caster))

theorem runTopLevel_eq_vet : c.runTopLevel e target = (do
    c.vet e
    c.weigh e target) := by
  funext s
  cases checked : e.check c.settings.vocabulary with
  | error fault =>
      have refused : c.vet e s = .error fault s := bind_error (check_of_error checked s)
      rw [bind_error refused]
      exact bind_error (check_of_error checked s)
  | ok =>
      have looked : c.vet e s = _ := bind_ok (check_of_ok checked s)
      rw [get_bind] at looked
      cases there : s.world.has c.caster with
      | true =>
          rw [there] at looked
          rw [bind_ok looked, runTopLevel_of_checked checked there]
      | false =>
          rw [there] at looked
          rw [bind_error looked, runTopLevel_of_missing checked there]

variable (site : Site α) (wrapper : Operation α)

/-- Runs an effect that holds a wrapper at some place, and watches for the wrapper. -/
def watchEffect : Watch α Unit :=
  (Watch.of (c.resolve e.target c.caster target)).bind fun ids =>
    Watch.forEach (fun id => (Watch.of (c.enroll id)).bind fun _ =>
      c.watch c.outermost id wrapper site) ids

/-- Calls an effect that holds a wrapper at some place, and watches for the wrapper. -/
def watchTopLevel : Watch α Unit :=
  (Watch.of (c.vet (e.fill site [wrapper]))).bind fun _ =>
    (Watch.of (begin e)).bind fun _ =>
      (Watch.of (c.conditionsHold target e.conditions)).bind fun met =>
        if met then
          match c.request? (e.fill site [wrapper]) target with
          | none => c.watchEffect e target site wrapper
          | some q => .of do
            stop .scheduled
            Run.note (Report.schedule q)
        else .of (stop .conditionsNotMet)

theorem watchEffect_run :
    (c.watchEffect e target site wrapper).run = c.runEffect (e.fill site [wrapper]) target := by
  unfold watchEffect runEffect runOnTargets Effect.fill
  refine bind_congr fun ids => (Watch.forEach_run _ ids).trans ?_
  refine congrArg (fun step => Run.forEach step ids) (funext fun id => ?_)
  exact bind_congr fun _ => c.watch_run c.outermost id wrapper site

theorem watchTopLevel_run :
    (c.watchTopLevel e target site wrapper).run = c.runTopLevel (e.fill site [wrapper]) target := by
  rw [runTopLevel_eq_vet]
  refine bind_congr fun _ => bind_congr fun _ => bind_congr fun met => ?_
  rw [apply_ite Watch.run]
  refine if_congr Iff.rfl ?_ rfl
  cases c.request? (e.fill site [wrapper]) target with
  | none => exact c.watchEffect_run e target site wrapper
  | some q => rfl

end Cast

/-! ## Calls that go alongside -/

namespace Cast

variable {c : Cast α} {e : Effect α} {target : Option EntityId} {site : Site α}
  {wrapper : Operation α} {ops : List (Operation α)}

theorem coupled_vet {swaps : Request α → Request α → Prop} {k : Nat} {e e' : Effect α}
    (checked : e.check c.settings.vocabulary = .ok ())
    (checked' : e'.check c.settings.vocabulary = .ok ()) :
    (c.vet e).Coupled (Execution.Alongside swaps k) (c.vet e') := by
  unfold vet
  rw [checked, checked']
  refine .of_indifferent fun other _ => (Indifferent.check _).bind fun _ =>
    .get_bind (fun _ => rfl) fun s => ?_
  exact .ite (.throw _) (.pure ())

omit [Scalar α] in
theorem request?_fill (c : Cast α) (e : Effect α) (target : Option EntityId) (site : Site α)
    (ops ops' : List (Operation α)) : c.request? (e.fill site ops') target =
      (c.request? (e.fill site ops) target).map fun q =>
        { q with work := .effect (e.fill site ops') } := by
  obtain ⟨_, _, _, _, _, timing, _⟩ := e
  cases timing <;> rfl

omit [Scalar α] in
theorem rewritten_of_request? {q : Request α}
    (asked : c.request? (e.fill site [wrapper]) target = some q) :
    Request.Rewritten e site wrapper ops q { q with work := .effect (e.fill site ops) } := by
  have deferred : e.timing ≠ .immediate := by
    intro immediate
    unfold request? Effect.fill at asked
    rw [immediate] at asked
    cases asked
  obtain ⟨q', asked', -, -, work⟩ :=
    c.request?_of_deferred (e := e.fill site [wrapper]) deferred target
  cases asked.symm.trans asked'
  exact .effect deferred q work

variable [Scalar.Counting α]

theorem sheds_effect (free : c.Unmetered) (unwraps : wrapper.Unwraps ops) :
    (c.watchEffect e target site wrapper).Sheds (Request.Rewritten e site wrapper ops)
      (c.runEffect (e.fill site ops) target) := by
  have alike (k : Nat) : c.Likeness (Execution.Alongside (Request.Rewritten e site wrapper ops) k) :=
    free.likeness .same
  refine (Watch.Sheds.of fun k => (alike k).resolve ..).bind fun ids => .forEach (fun id => ?_) ids
  refine (Watch.Sheds.of fun k => (alike k).enroll id).bind fun _ => ?_
  exact sheds_site free .same (fun k => (alike k).reentry _) unwraps id fun inner deferred q work =>
    .body deferred q work

theorem sheds_topLevel (free : c.Unmetered) (unwraps : wrapper.Unwraps ops)
    (checked : (e.fill site [wrapper]).check c.settings.vocabulary = .ok ())
    (checked' : (e.fill site ops).check c.settings.vocabulary = .ok ()) :
    (c.watchTopLevel e target site wrapper).Sheds (Request.Rewritten e site wrapper ops)
      (c.runTopLevel (e.fill site ops) target) := by
  have alike (k : Nat) : c.Likeness (Execution.Alongside (Request.Rewritten e site wrapper ops) k) :=
    free.likeness .same
  have stopped (reason : Reason) (k : Nat) : (stop reason).Coupled
      (Execution.Alongside (Request.Rewritten e site wrapper ops) k) (stop reason) :=
    .of_indifferent fun _ _ => .note fun _ => rfl
  rw [runTopLevel_eq_vet]
  refine (Watch.Sheds.of fun k => coupled_vet checked checked').bind fun _ => ?_
  refine (Watch.Sheds.of fun k => .of_indifferent fun other _ => indifferent_begin other e).bind fun _ => ?_
  refine (Watch.Sheds.of fun k => (alike k).conditionsHold ..).bind fun met => .ite ?_ (.of (stopped _))
  rw [request?_fill c e target site [wrapper] ops]
  cases asked : c.request? (e.fill site [wrapper]) target with
  | none => exact sheds_effect free unwraps
  | some q =>
      exact .of fun k => (stopped _ k).bind fun _ => coupled_schedule (rewritten_of_request? asked)

end Cast

namespace Interpreter

/-- **Wrappers are transparent.** Replace, at any place of an effect, a repetition with a literal count
by its body written out, or a conditional with a literal condition by its branch. If both effects pass
their checks, operations and depth have no ceiling, and time does not run out, the two calls have the
same outcome, world, stream, and counters of damage, spawns and targets. The one with the wrapper begins
one more operation every time it is dispatched, and counts as many more unless its counter overflows.
The reports differ in nothing else but the operations inside the requests of delays around the wrapper,
or of a deferred effect. -/
theorem wrappers_transparent [Scalar.Counting α] (i : Interpreter α) (e : Effect α) (site : Site α)
    {wrapper : Operation α} {ops : List (Operation α)} (unwraps : wrapper.Unwraps ops)
    (context : Context) (w : World α) (clock : Clock)
    (operations : i.settings.limits.operations = none) (depth : i.settings.limits.depth = none)
    (timeout : i.settings.limits.timeout = none)
    (checked : (e.fill site [wrapper]).check i.settings.vocabulary = .ok ())
    (checked' : (e.fill site ops).check i.settings.vocabulary = .ok ()) :
    let c := i.cast context.caster w clock
    let s := i.start (.execute e context) w
    let watched := c.watchTopLevel e context.target site wrapper
    let swaps := Request.Rewritten e site wrapper ops
    watched.run = c.runTopLevel (e.fill site [wrapper]) context.target ∧
      Run.Meets (Execution.Alongside swaps (watched.visits s))
        (c.runTopLevel (e.fill site [wrapper]) context.target s)
        (c.runTopLevel (e.fill site ops) context.target s) ∧
      Outcome.Alongside swaps (watched.visits s) (i.execute (e.fill site [wrapper]) context w clock).1
        (i.execute (e.fill site ops) context w clock).1 ∧
      (i.execute (e.fill site ops) context w clock).2 =
        (i.execute (e.fill site [wrapper]) context w clock).2 ∧
      ((last (c.runTopLevel (e.fill site [wrapper]) context.target s)).governor.begun ≤ maxCount →
        (i.execute (e.fill site [wrapper]) context w clock).1.report.operations.toNat =
          (i.execute (e.fill site ops) context w clock).1.report.operations.toNat +
            watched.visits s) := by
  intro c s watched swaps
  have free : c.Unmetered := ⟨operations, depth, timeout⟩
  have same : watched.run = c.runTopLevel (e.fill site [wrapper]) context.target :=
    c.watchTopLevel_run e context.target site wrapper
  have near : s.Alongside swaps 0 s := .intro rfl rfl .nil
  have sheds : watched.Sheds swaps (c.runTopLevel (e.fill site ops) context.target) :=
    Cast.sheds_topLevel free unwraps checked checked'
  have met := sheds.meets near
  rw [Nat.zero_add, same] at met
  exact ⟨same, met, (finish_alongside met).1, (finish_alongside met).2, operations_alongside met⟩

/-! ## A drum roll -/

def stroke : Operation Float := .act (.dealDamage "physical" (.number 2))

def strokes (n : Nat) : Operation Float := .iterate (.number (Scalar.ofNat n)) [stroke]

theorem strokes_unwraps {n : Nat} (same : ((Scalar.ofNat n : Float) == Scalar.ofNat n) = true)
    (most : n ≤ maxCount) : (strokes n).Unwraps (List.replicate n [stroke]).flatten :=
  .rounds [stroke] ⟨⟨_, rfl, same⟩, most⟩

def drumRoll : Effect Float where
  target := { shape := .single }
  operations := []

/-- A place in a repetition, and there in a branch that is taken as long as the target is healthy. -/
def drumRoll.site : Site Float :=
  .inside [stroke] (.iterate (.number 3))
    (.inside []
      (.accepted (.binary .gt (.path ⟨"target.health", .entity .target .health⟩) (.number 25)) none)
      (.here [] []) []) []

/-- The wrapper is dispatched twice, so the roll with the wrapper counts two operations more. -/
theorem drumRoll_unwrapped :
    let wrapped := drumRoll.fill drumRoll.site [strokes 1]
    let plain := drumRoll.fill drumRoll.site [stroke]
    let context : Context := { caster := 1, target := some 2 }
    (strokes 1).Unwraps [stroke] ∧ wrapped.check novice.settings.vocabulary = .ok () ∧
      plain.check novice.settings.vocabulary = .ok () ∧
      (novice.execute wrapped context duel).1.isOk = true ∧
      (novice.execute wrapped context duel).1.report.operations.toNat = 9 ∧
      (novice.execute plain context duel).1.report.operations.toNat = 7 ∧
      (novice.execute plain context duel).2 = (novice.execute wrapped context duel).2 := by
  intro wrapped plain context
  have unwraps : (strokes 1).Unwraps [stroke] := strokes_unwraps (by decide +kernel) (by decide)
  have checked : wrapped.check novice.settings.vocabulary = .ok () := by decide +kernel
  have checked' : plain.check novice.settings.vocabulary = .ok () := by decide +kernel
  have twice : ((novice.cast 1 duel).watchTopLevel drumRoll (some 2) drumRoll.site (strokes 1)).visits
      (novice.start (.execute drumRoll context) duel) = 2 := by decide +kernel
  have nine : (novice.execute wrapped context duel).1.report.operations.toNat = 9 := by decide +kernel
  have few : (last ((novice.cast 1 duel).runTopLevel wrapped (some 2)
      (novice.start (.execute drumRoll context) duel))).governor.begun ≤ maxCount := by decide +kernel
  obtain ⟨-, -, -, world, counts⟩ := wrappers_transparent novice drumRoll drumRoll.site unwraps context
    duel .still rfl rfl rfl checked checked'
  have fewer : _ = (novice.execute plain context duel).1.report.operations.toNat + _ := counts few
  rw [nine, twice] at fewer
  exact ⟨unwraps, checked, checked', by decide +kernel, nine, by omega, world⟩

/-- How many operations stand in every effect that a report asks for. -/
def written (r : Report Float) : List Nat :=
  r.scheduled.toList.map fun q => match q.work with
    | .effect e => e.operations.length
    | .operations .. => 0

/-- The request of a deferred effect records the wrapper, which lies in no delay. -/
theorem drumRoll_written :
    let deferred : Effect Float := { drumRoll with timing := .delayed 1 }
    let site : Site Float := .here [] []
    let wrapped := novice.execute (deferred.fill site [strokes 2]) { caster := 1, target := some 2 } duel
    let plain := novice.execute (deferred.fill site [stroke, stroke]) { caster := 1, target := some 2 } duel
    (strokes 2).Unwraps [stroke, stroke] ∧ site.deferred?.isNone = true ∧
      (deferred.fill site [strokes 2]).check novice.settings.vocabulary = .ok () ∧
      (deferred.fill site [stroke, stroke]).check novice.settings.vocabulary = .ok () ∧
      wrapped.1.isOk = true ∧ plain.1.isOk = true ∧
      wrapped.1.report.scheduled ≠ plain.1.report.scheduled := by
  intro deferred site wrapped plain
  refine ⟨strokes_unwraps (by decide +kernel) (by decide), rfl, by decide +kernel, by decide +kernel,
    by decide +kernel, by decide +kernel, fun same => ?_⟩
  have wrote : written wrapped.1.report = [1] := by decide +kernel
  have wrote' : written plain.1.report = [2] := by decide +kernel
  unfold written at wrote wrote'
  rw [same, wrote'] at wrote
  cases wrote

theorem nightWatch_wrapped :
    let site : Site Float := .here [] [vigil (maxCount - 1)]
    let wrapped := novice.execute (drumRoll.fill site [hour]) { caster := 1, target := some 2 } duel
    let plain := novice.execute (drumRoll.fill site []) { caster := 1, target := some 2 } duel
    hour.Unwraps [] ∧ (drumRoll.fill site [hour]).check novice.settings.vocabulary = .ok () ∧
      (drumRoll.fill site []).check novice.settings.vocabulary = .ok () ∧
      wrapped.1.isOk = true ∧ plain.1.isOk = true ∧
      wrapped.1.report.operations = 0 ∧ plain.1.report.operations.toNat = maxCount := by
  dsimp only
  have checked : (drumRoll.fill (.here [] [vigil (maxCount - 1)]) [hour]).check
      novice.settings.vocabulary = .ok () := by decide +kernel
  have checked' : (drumRoll.fill (.here [] [vigil (maxCount - 1)]) []).check
      novice.settings.vocabulary = .ok () := by decide +kernel
  have free : (novice.cast 1 duel).settings.limits.Open := ⟨nofun, rfl, rfl, rfl⟩
  have night : ((novice.cast 1 duel).runOperations (novice.cast 1 duel).outermost 2
      [vigil (maxCount - 1)]).Idles [] (1 + (maxCount - 1)) 0 :=
    Cast.idles_single (Cast.idles_vigil (by decide +kernel) (Nat.sub_le ..) free)
  have all : ((novice.cast 1 duel).runOperations (novice.cast 1 duel).outermost 2
      [hour, vigil (maxCount - 1)]).Idles [] (1 + (1 + (maxCount - 1))) 0 := by
    have first : ((novice.cast 1 duel).runOperation (novice.cast 1 duel).outermost 2 hour).Idles
        [] 1 0 := Cast.idles_iterate (a := 0) (b := 0) free counts_zero nofun
    rw [Cast.runOperations]
    exact first.bind night
  obtain ⟨s, chosen⟩ := duel_chosen
  obtain ⟨r, ended, operations⟩ := execute_idle { caster := 1, target := some 2 }
    checked (by decide +kernel) rfl rfl chosen rfl all
  obtain ⟨r', ended', operations'⟩ := execute_idle { caster := 1, target := some 2 }
    checked' (by decide +kernel) rfl rfl chosen rfl night
  rw [ended, ended']
  refine ⟨.rounds _ counts_zero, checked, checked', rfl, rfl, operations.trans (by decide), ?_⟩
  exact (congrArg UInt32.toNat operations').trans (by decide)

end Interpreter

end Grimoire
