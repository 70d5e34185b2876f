import Grimoire.Proofs.Expression.Outcomes
import Grimoire.Proofs.Number.Order

/-! # Numbers that are not finite

Whatever is computed is looked at before it is handed on, and what is read from the world is not.  So a
number that is not finite comes out of an expression exactly if the expression is a path that reads
one, perhaps with its sign changed: `Bindings.Leaks`.  Where a whole number is asked for, none does.
-/

namespace Grimoire

open Quantity (isNaN)

/-! ## Reading -/

namespace Draw

variable {β γ : Type}

/-- Whether a draw comes to the same from every stream and leaves it as it is. -/
def Steady (d : Draw β) : Prop :=
  ∃ outcome : Except Fault β, ∀ s, d s = match outcome with
    | .ok x => .ok x s
    | .error fault => .error fault s

namespace Steady

theorem pure (x : β) : Steady (Pure.pure x : Draw β) := ⟨.ok x, fun _ => rfl⟩

theorem orFail (x : Option β) (cause : EvalFault) : Steady (Draw.orFail x cause) := by
  cases x with
  | none => exact ⟨.error (.evaluation cause), fun _ => rfl⟩
  | some x => exact pure x

theorem bind {d : Draw β} {k : β → Draw γ} (hd : d.Steady) (hk : ∀ x, (k x).Steady) :
    (d >>= k).Steady := by
  obtain ⟨first, reads⟩ := hd
  cases first with
  | error fault => exact ⟨.error fault, fun s => Run.bind_error (reads s)⟩
  | ok x =>
      obtain ⟨second, goes⟩ := hk x
      exact ⟨second, fun s => (Run.bind_ok (reads s)).trans (goes s)⟩

theorem answer {d : Draw β} (h : d.Steady) {s s' : Stream} {x : β} (hr : d s = .ok x s')
    (s₁ : Stream) : d s₁ = .ok x s₁ := by
  obtain ⟨outcome, reads⟩ := h
  rw [reads] at hr ⊢
  cases outcome with
  | ok y => cases hr; rfl
  | error fault => cases hr

end Steady

end Draw

variable {α : Type} [Scalar α]

namespace Bindings

theorem read_steady (b : Bindings α) (p : Path) : (b.read p).Steady := by
  unfold read
  cases p.access with
  | tick | entityCount => exact .pure _
  | entity root field =>
      have rooted : (b.root p.raw root).Steady := by
        cases root with
        | caster => exact .pure _
        | target => exact .orFail ..
      refine rooted.bind fun id => (Draw.Steady.orFail ..).bind fun e => ?_
      cases field with
      | positionX | positionY => exact (Draw.Steady.orFail ..).bind fun _ => .pure _
      | _ => exact .pure _

end Bindings

/-! ## Leaks -/

namespace Expr

/-- The path whose number an expression hands on as it is read, but for its sign. -/
def unchecked? {α : Type} : Expr α → Option Path
  | path p => some p
  | unary .neg e => e.unchecked?
  | _ => none

end Expr

/-- Whether an expression hands on a number that is read and is not finite. -/
def Bindings.Leaks (b : Bindings α) (e : Expr α) : Prop :=
  ∃ p, e.unchecked? = some p ∧ ∃ x, b.Shows p x ∧ Scalar.isFinite x = false

namespace Expr

variable [Scalar.Finitary α] (b : Bindings α)

theorem computed_yields : ∀ e : Expr α, e.unchecked? = none →
    (e.eval b).Yields (Value.All fun n => Scalar.isFinite n = true)
      (Fault.IsEvaluationOf False False)
  | number n, _ => Value.finite_yields "literal" n
  | bool _, _ | text _, _ => .pure trivial
  | path _, computed => by cases computed
  | unary .not e, _ =>
      (e.eval_yields b .any fun _ _ _ _ => trivial).bind fun _ _ => .pure trivial
  | unary .neg e, computed => by
      refine (computed_yields e computed).bind fun v operand => ?_
      refine (UnaryOp.neg.apply_yields v).mono (fun result negated => ?_) fun _ raised => raised
      cases result with
      | number n =>
          obtain ⟨-, m, rfl, rfl⟩ := negated
          exact (Scalar.Finitary.isFinite_neg m).trans operand
      | _ => trivial
  | binary op l r, _ => by
      unfold eval
      refine (l.eval_yields b .any fun _ _ _ _ => trivial).bind fun v _ => ?_
      cases op.decide? v with
      | some decided => exact .pure trivial
      | none =>
          exact (r.eval_yields b .any fun _ _ _ _ => trivial).bind fun w _ => op.apply_yields v w
  | call name args, _ => by
      unfold eval
      refine (Draw.Yields.ofExcept Fault.IsEvaluationOf.uncounted).bind fun f _ => ?_
      refine (Draw.Yields.ofExcept Fault.IsEvaluationOf.uncounted).bind fun _ _ => ?_
      refine (evalAll_yields b .any args fun _ _ _ _ => trivial).bind fun values listed => ?_
      exact (f.apply_yields b values False.elim listed).mono (fun _ one => one)
        fun _ raised => raised.weaken False.elim id

theorem negated_of_eval : ∀ (e : Expr α) {p : Path}, e.unchecked? = some p →
    ∀ {s s' n}, e.eval b s = .ok (.number n) s' →
      ∃ x, b.Shows p x ∧ Scalar.isFinite x = Scalar.isFinite n
  | path p, _, bare, s, s', n, answered => by
      cases bare
      exact ⟨n, ⟨s, s', answered⟩, rfl⟩
  | unary .neg e, p, bare, s, s', n, answered => by
      obtain ⟨v, s₁, operand, applied⟩ := Run.ok_of_bind answered
      cases v with
      | number m =>
          cases applied
          obtain ⟨x, shows, same⟩ := negated_of_eval e bare operand
          exact ⟨x, shows, same.trans (Scalar.Finitary.isFinite_neg m).symm⟩
      | _ => cases applied

theorem eval_of_shows : ∀ (e : Expr α) {p : Path}, e.unchecked? = some p → ∀ {x}, b.Shows p x →
    ∀ s, ∃ n, e.eval b s = .ok (.number n) s ∧ Scalar.isFinite n = Scalar.isFinite x
  | path p, _, bare, x, ⟨_, _, shows⟩, s => by
      cases bare
      exact ⟨x, (b.read_steady p).answer shows s, rfl⟩
  | unary .neg e, p, bare, x, shows, s => by
      obtain ⟨m, operand, same⟩ := eval_of_shows e bare shows s
      exact ⟨-m, Run.bind_ok operand, (Scalar.Finitary.isFinite_neg m).trans same⟩

theorem eval_wild_iff (e : Expr α) (s : Stream) :
    (∃ n s', e.eval b s = .ok (.number n) s' ∧ Scalar.isFinite n = false) ↔ b.Leaks e := by
  constructor
  · rintro ⟨n, s', answered, wild⟩
    cases bare : e.unchecked? with
    | none =>
        have finite : Scalar.isFinite n = true := (computed_yields b e bare).answer answered
        rw [wild] at finite
        cases finite
    | some p =>
        obtain ⟨x, shows, same⟩ := negated_of_eval b e bare answered
        exact ⟨p, bare, x, shows, same.trans wild⟩
  · rintro ⟨p, bare, x, shows, wild⟩
    obtain ⟨n, answered, same⟩ := eval_of_shows b e bare shows s
    exact ⟨n, s, answered, same.trans wild⟩

omit [Scalar.Finitary α] in
theorem evalNumber_ok_iff (e : Expr α) {s s' : Stream} {n : α} :
    e.evalNumber b s = .ok n s' ↔ e.eval b s = .ok (.number n) s' := by
  constructor
  · intro answered
    obtain ⟨v, s₁, evaluated, number⟩ := Run.ok_of_bind answered
    cases v with
    | number m =>
        cases number
        exact evaluated
    | _ => cases number
  · exact fun evaluated => Run.bind_ok evaluated

/-- An expression evaluates to a number that is not finite exactly if it is a path, possibly negated,
that reads one. Evaluation to a whole number never does so, and every failure is a fault of evaluation.
-/
theorem wild_iff_leaks (e : Expr α) (s : Stream) :
    ((∃ n s', e.eval b s = .ok (.number n) s' ∧ Scalar.isFinite n = false) ↔ b.Leaks e) ∧
    ((∃ n s', e.evalNumber b s = .ok n s' ∧ Scalar.isFinite n = false) ↔ b.Leaks e) ∧
    (∀ n s', e.evalWhole b s = .ok n s' → Scalar.isFinite n = true) ∧
    (e.eval b).Raises Fault.IsEvaluation ∧ (e.evalNumber b).Raises Fault.IsEvaluation ∧
    (e.evalWhole b).Raises Fault.IsEvaluation := by
  have whole := e.evalWhole_yields b .any fun _ _ _ _ => trivial
  refine ⟨e.eval_wild_iff b s, ?_, fun n s' answered => ?_, e.raises_eval b, e.raises_evalNumber b,
    e.raises_evalWhole b⟩
  · simp only [evalNumber_ok_iff]
    exact e.eval_wild_iff b s
  · exact Scalar.Finitary.isFinite_of_isWhole (whole.answer answered)

end Expr

/-! ### A sum that overflows -/

/-- A world with one entity, whose mana is the sum of two finite numbers. -/
def brimming : World Float :=
  (World.create .empty "wisp").2.update 1 fun e => e.put .stats
    { base := (∅ : NameMap Float).insert "mana" 1e308, modifiers := [⟨"mana", 1e308, some 9⟩] }

def casterMana : Path := ⟨"caster.mana", .entity .caster (.stat "mana")⟩

/-- The path is evaluated to infinity where a number is asked for. -/
theorem mana_overflows :
    Path.parse "caster.mana" = .ok casterMana ∧
      ∃ n s', (Expr.path casterMana).evalNumber ⟨brimming, 1, none⟩ (.ofSeed 0) = .ok n s' ∧
        Scalar.isFinite n = false :=
  ⟨by decide +kernel, _, _, rfl, by decide +kernel⟩

def debt : Expr Float := .unary .neg (.path casterMana)

/-- So is its negation. -/
theorem debt_overflows :
    (⟨brimming, 1, none⟩ : Bindings Float).Leaks debt ∧
      ∃ n s', debt.evalNumber ⟨brimming, 1, none⟩ (.ofSeed 0) = .ok n s' ∧
        Scalar.isFinite n = false := by
  have leaks : (⟨brimming, 1, none⟩ : Bindings Float).Leaks debt :=
    ⟨casterMana, rfl, _, ⟨.ofSeed 0, _, rfl⟩, by decide +kernel⟩
  have numbers := (debt.wild_iff_leaks ⟨brimming, 1, none⟩ (.ofSeed 0)).2.1
  exact ⟨leaks, numbers.mpr leaks⟩

end Grimoire
