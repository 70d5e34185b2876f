import Grimoire.Proofs.Expression.Finite

/-! # Nothing is used outside of what it is made for

Three things that evaluation uses have to be used rightly: a function gets as many arguments as it takes,
a number is held between bounds that are in order, and random whole numbers are drawn from an interval
that is not empty.  Arguments are counted before they are evaluated, and an interval is turned round if
need be.  Bounds are compared, but a bound that is no number is neither above nor below the other one:
`Expr.failure_explained` says that such a number was read from the world, and that apart from this
every failure is a fault of the evaluation.
-/

namespace Grimoire

open Quantity (isNaN)

namespace Stream

theorem between_eq (x y : Int) (s : Stream) :
    between x y s = drawOrdered (min x y) (max x y) s := by
  unfold between
  by_cases order : x ≤ y
  · rw [if_pos order, min_eq_left order, max_eq_right order]
  · have turned : y ≤ x := by omega
    rw [if_neg order, min_eq_right turned, max_eq_left turned]

end Stream

variable {α : Type} [Scalar α]

namespace Expr

theorem keeps_numbers [Quantity.Ordered α] [Scalar.Finitary α] :
    Keeps (fun n : α => isNaN n = false) True where
  finite _ finite := Scalar.Finitary.isNaN_of_isFinite finite
  neg n number := (Scalar.Finitary.isNaN_neg n).trans number
  ordered _ _ _ hx hy wrong := Quantity.Ordered.le_of_not_lt hx hy wrong

def Fails (b : Bindings α) (e : Expr α) (fault : Fault) : Prop :=
  ∃ s s', e.eval b s = .error fault s' ∨ e.evalNumber b s = .error fault s' ∨
    e.evalBool b s = .error fault s' ∨ e.evalWhole b s = .error fault s'

variable {b : Bindings α} {e : Expr α}

theorem isEvaluationOf_of_fails {N : α → Prop} {comparable : Prop} (keeps : Keeps N comparable)
    (reads : ∀ p ∈ e.paths, ∀ x, b.Shows p x → N x) {fault : Fault} (failed : e.Fails b fault) :
    fault.IsEvaluationOf False comparable := by
  obtain ⟨s, s', failed | failed | failed | failed⟩ := failed
  · exact (e.eval_yields b keeps reads).fault failed
  · exact (e.evalNumber_yields b keeps reads).fault failed
  · exact (e.evalBool_yields b keeps reads).fault failed
  · exact (e.evalWhole_yields b keeps reads).fault failed

/-- Bounds are met out of order only where something that is no number was read. -/
theorem reads_nan_of_brokenBounds [Quantity.Ordered α] [Scalar.Finitary α]
    (failed : e.Fails b .brokenBounds) : ∃ p ∈ e.paths, ∃ x, b.Shows p x ∧ isNaN x = true := by
  by_contra none
  have reads : ∀ p ∈ e.paths, ∀ x, b.Shows p x → isNaN x = false := by
    intro p listed x shows
    cases strange : isNaN x with
    | false => rfl
    | true => exact absurd ⟨p, listed, x, shows, strange⟩ none
  exact isEvaluationOf_of_fails keeps_numbers reads failed trivial

theorem length_of_evalAll : ∀ {es : List (Expr α)} {s s' : Stream} {vs : List (Value α)},
    evalAll b es s = .ok vs s' → vs.length = es.length
  | [], _, _, _, evaluated => by cases evaluated; rfl
  | e :: es, s, s', vs, evaluated => by
      unfold evalAll at evaluated
      obtain ⟨v, s₁, -, others⟩ := Run.ok_of_bind evaluated
      obtain ⟨rest, s₂, remaining, answer⟩ := Run.ok_of_bind others
      cases answer
      exact congrArg (· + 1) (length_of_evalAll remaining)

theorem eval_call (name : String) (args : List (Expr α)) :
    (∃ cause, (call name args).eval b = Draw.fail cause) ∨
      ∃ f : Function, f.takes args.length = true ∧
        (call name args).eval b = evalAll b args >>= f.apply b := by
  unfold eval
  cases named : Function.ofName name with
  | error cause => exact .inl ⟨cause, rfl⟩
  | ok f =>
      by_cases counted : f.takes args.length = true
      · refine .inr ⟨f, counted, ?_⟩
        have checked : f.checkArity args.length = .ok () := if_pos counted
        change (Draw.ofExcept (f.checkArity args.length) >>= fun _ => evalAll b args >>= f.apply b) = _
        rw [checked]
        rfl
      · refine .inl ⟨.arity f.name f.expected args.length, ?_⟩
        have refused : f.checkArity args.length = .error (.arity f.name f.expected args.length) :=
          if_neg counted
        change (Draw.ofExcept (f.checkArity args.length) >>= fun _ => evalAll b args >>= f.apply b) = _
        rw [refused]
        rfl

end Expr

theorem Function.not_arity_of_takes (b : Bindings α) {f : Function} {args : List (Value α)}
    (counted : f.takes args.length = true) {s s' : Stream} {fault : Fault}
    (failed : f.apply b args s = .error fault s') (name expected : String) (given : Nat) :
    fault ≠ .evaluation (.arity name expected given) := by
  rintro rfl
  have any (v : Value α) (_ : v ∈ args) : v.All fun _ => True := by cases v <;> trivial
  exact (f.apply_yields b args False.elim any).fault failed counted

namespace Expr

variable [Quantity.Ordered α] [Scalar.Finitary α]

/-- Every failure is a fault of evaluation, or else `clamp` meets bounds that are out of order, which
takes a path that reads a number that is none. Functions get as many arguments as they take, and no draw
is from an empty interval. -/
theorem failure_explained (b : Bindings α) :
    (∀ e : Expr α, ∀ fault, e.Fails b fault → (∃ cause, fault = .evaluation cause) ∨
      fault = .brokenBounds ∧ ∃ p ∈ e.paths, ∃ x, b.Shows p x ∧ isNaN x = true) ∧
    (∀ x low high : α, isNaN low = false → isNaN high = false →
      (Function.clampTo x low high).Raises fun fault => ∃ cause, fault = .evaluation cause) ∧
    (∀ name args, (∃ cause, (call name args).eval b = Draw.fail cause) ∨
      ∃ f : Function, (call name args).eval b = evalAll b args >>= f.apply b ∧
        ∀ s values s₁, evalAll b args s = .ok values s₁ → f.takes values.length = true ∧
          ∀ fault s', f.apply b values s₁ = .error fault s' →
            ∀ n k given, fault ≠ .evaluation (.arity n k given)) ∧
    ∀ x y s, min x y ≤ max x y ∧ Stream.between x y s = Stream.drawOrdered (min x y) (max x y) s := by
  refine ⟨fun e fault failed => ?_, fun x low high isLow isHigh => ?_, fun name args => ?_,
    fun x y s => ⟨min_le_max, Stream.between_eq x y s⟩⟩
  · have evaluation := isEvaluationOf_of_fails .any (fun _ _ _ _ => trivial) failed
    cases fault with
    | evaluation cause => exact .inl ⟨cause, rfl⟩
    | brokenBounds => exact .inr ⟨rfl, reads_nan_of_brokenBounds failed⟩
    | _ => exact evaluation.elim
  · have ordered (wrong : ¬ high < low) : low ≤ high :=
      Quantity.Ordered.le_of_not_lt isLow isHigh wrong
    have held : (Function.clampTo x low high).Yields _ (Fault.IsEvaluationOf False True) :=
      Function.clampTo_yields x low high fun _ => ordered
    refine held.toRaises.mono fun fault evaluation => ?_
    cases fault with
    | evaluation cause => exact ⟨cause, rfl⟩
    | brokenBounds => exact absurd trivial evaluation
    | _ => exact evaluation.elim
  · rcases eval_call name args with refused | ⟨f, counted, applied⟩
    · exact .inl refused
    · refine .inr ⟨f, applied, fun s values s₁ evaluated => ?_⟩
      rw [length_of_evalAll evaluated]
      refine ⟨counted, fun fault s' failed => Function.not_arity_of_takes b ?_ failed⟩
      rw [length_of_evalAll evaluated]
      exact counted

end Expr

/-! ### A sum that is no number -/

/-- A world with one entity, whose mana has an infinite base and is lowered by as much for a time. -/
def torn : World Float :=
  (World.create .empty "wisp").2.update 1 fun e => e.put .stats
    { base := (∅ : NameMap Float).insert "mana" (1e308 + 1e308)
      modifiers := [⟨"mana", -1e308, some 5⟩, ⟨"mana", -1e308, some 5⟩] }

/-- A number held between the mana of the caster and another number. -/
def grasp : Expr Float := .call "clamp" [.number 1, .path casterMana, .number 5]

def Draw.failure? {β : Type} (d : Draw β) (s : Stream) : Option Fault :=
  match d s with
  | .ok .. => none
  | .error fault _ => some fault

theorem Draw.error_of_failure? {β : Type} {d : Draw β} {s : Stream} {fault : Fault}
    (h : d.failure? s = some fault) : ∃ s', d s = .error fault s' := by
  unfold failure? at h
  split at h
  · cases h
  · next raised s' failed =>
      cases h
      exact ⟨s', failed⟩

/-- One bound is no number, so the guard lets them pass, and the clamp breaks. -/
theorem grasp_breaks :
    (grasp.eval ⟨torn, 1, none⟩).failure? (.ofSeed 0) = some .brokenBounds := by
  decide +kernel

/-- The mana of the target is no number. -/
theorem grasp_explained :
    grasp.Fails ⟨torn, 1, none⟩ .brokenBounds ∧
      ∃ p ∈ grasp.paths, ∃ x, (⟨torn, 1, none⟩ : Bindings Float).Shows p x ∧ isNaN x = true := by
  have broken : (grasp.eval ⟨torn, 1, none⟩).failure? (.ofSeed 0) = some .brokenBounds := by
    decide +kernel
  obtain ⟨s', failed⟩ := Draw.error_of_failure? broken
  have fails : grasp.Fails ⟨torn, 1, none⟩ .brokenBounds := ⟨_, s', .inl failed⟩
  rcases (Expr.failure_explained (⟨torn, 1, none⟩ : Bindings Float)).1 grasp _ fails with
    ⟨cause, evaluation⟩ | ⟨-, read⟩
  · cases evaluation
  · exact ⟨fails, read⟩

end Grimoire
