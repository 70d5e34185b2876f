import Grimoire.Expression.Eval

/-! # What an evaluation comes to

A draw answers something or it fails.  `Draw.Yields P E d` says of which kind its answers and its
faults are, from whatever stream; the rule for a sequence hands on what is known of the first answer.
Each function of the evaluator has its rule here, and `Expr.eval_yields` puts them together: numbers
that are computed are finite, and only numbers that are read from the world can be something else.

Evaluations fail with evaluation faults.  A function that is applied to as many arguments as it takes
has none to miss, and bounds are refused properly as long as all numbers can be compared.
-/

namespace Grimoire

namespace Fault

def IsEvaluation : Fault → Prop
  | evaluation _ | brokenBounds => True
  | _ => False

/-- A fault of an evaluation.  No arguments are missing or too many if they were counted, and bounds are
not met out of order if the numbers allow for it. -/
def IsEvaluationOf (counted comparable : Prop) : Fault → Prop
  | evaluation (.arity ..) => ¬ counted
  | evaluation _ => True
  | brokenBounds => ¬ comparable
  | _ => False

namespace IsEvaluationOf

variable {counted comparable : Prop} {fault : Fault}

theorem isEvaluation (h : fault.IsEvaluationOf counted comparable) : fault.IsEvaluation := by
  cases fault with
  | evaluation | brokenBounds => trivial
  | _ => exact h.elim

theorem uncounted (cause : EvalFault) : (evaluation cause).IsEvaluationOf False comparable := by
  cases cause with
  | arity => exact not_false
  | _ => trivial

theorem weaken {fewer less : Prop} (h : fault.IsEvaluationOf counted comparable)
    (hn : fewer → counted) (hc : less → comparable) : fault.IsEvaluationOf fewer less := by
  cases fault with
  | evaluation cause =>
      cases cause with
      | arity => exact fun few => h (hn few)
      | _ => trivial
  | brokenBounds => exact fun some => h (hc some)
  | _ => exact h.elim

end IsEvaluationOf

end Fault

/-! ## Sequences -/

namespace Run

variable {β γ : Type}

theorem bind_ok {σ : Type} {m : EStateM Fault σ β} {k : β → EStateM Fault σ γ} {s s' : σ} {x : β}
    (h : m s = .ok x s') : (m >>= k) s = k x s' := by
  change EStateM.bind m k s = _
  simp only [EStateM.bind, h]

theorem bind_error {σ : Type} {m : EStateM Fault σ β} {k : β → EStateM Fault σ γ} {s s' : σ}
    {fault : Fault} (h : m s = .error fault s') : (m >>= k) s = .error fault s' := by
  change EStateM.bind m k s = _
  simp only [EStateM.bind, h]

theorem ok_of_bind {σ : Type} {m : EStateM Fault σ β} {k : β → EStateM Fault σ γ} {s s' : σ} {y : γ}
    (h : (m >>= k) s = .ok y s') : ∃ x s₁, m s = .ok x s₁ ∧ k x s₁ = .ok y s' := by
  cases hm : m s with
  | ok x s₁ =>
      rw [bind_ok hm] at h
      exact ⟨x, s₁, rfl, h⟩
  | error fault s₁ =>
      rw [bind_error hm] at h
      cases h

end Run

/-! ## Draws -/

namespace Draw

variable {β γ : Type} {P : β → Prop} {Q : γ → Prop} {E : Fault → Prop}

/-- Every fault of a draw is one of some kind. -/
structure Raises (E : Fault → Prop) (d : Draw β) : Prop where
  fault : ∀ {s fault s'}, d s = .error fault s' → E fault

/-- Every answer of a draw is one of some kind, and so is every fault. -/
structure Yields (P : β → Prop) (E : Fault → Prop) (d : Draw β) : Prop extends Raises E d where
  answer : ∀ {s x s'}, d s = .ok x s' → P x

namespace Yields

theorem pure {x : β} (h : P x) : Yields P E (Pure.pure x : Draw β) :=
  ⟨⟨fun hr => by cases hr⟩, fun hr => by cases hr; exact h⟩

theorem throw {fault : Fault} (h : E fault) : Yields P E (MonadExcept.throw fault : Draw β) :=
  ⟨⟨fun hr => by cases hr; exact h⟩, fun hr => by cases hr⟩

theorem bind {d : Draw β} {k : β → Draw γ} (hd : d.Yields P E) (hk : ∀ x, P x → (k x).Yields Q E) :
    (d >>= k).Yields Q E := by
  constructor
  · constructor
    intro s fault s' h
    cases hs : d s with
    | ok x s₁ =>
        rw [Run.bind_ok hs] at h
        exact (hk x (hd.answer hs)).fault h
    | error raised s₁ =>
        rw [Run.bind_error hs] at h
        cases h
        exact hd.fault hs
  · intro s y s' h
    obtain ⟨x, s₁, hs, hx⟩ := Run.ok_of_bind h
    exact (hk x (hd.answer hs)).answer hx

theorem mono {R : β → Prop} {F : Fault → Prop} {d : Draw β} (h : d.Yields P E)
    (hP : ∀ x, P x → R x) (hE : ∀ fault, E fault → F fault) : d.Yields R F :=
  ⟨⟨fun hr => hE _ (h.fault hr)⟩, fun hr => hP _ (h.answer hr)⟩

theorem draw (next : Stream → β × Stream) : (Draw.draw next).Yields (fun _ => True) E :=
  ⟨⟨fun h => by cases h⟩, fun _ => trivial⟩

theorem fail {cause : EvalFault} (h : E (.evaluation cause)) :
    (Draw.fail cause : Draw β).Yields P E := throw h

theorem orFail {x : Option β} {cause : EvalFault} (h : E (.evaluation cause)) :
    (Draw.orFail x cause).Yields (fun y => x = some y) E := by
  cases x with
  | none => exact fail h
  | some y => exact pure rfl

theorem ofExcept {x : Except EvalFault β} (h : ∀ cause, E (.evaluation cause)) :
    (Draw.ofExcept x).Yields (fun y => x = .ok y) E := by
  cases x with
  | error cause => exact fail (h cause)
  | ok y => exact pure rfl

end Yields

theorem Raises.mono {F : Fault → Prop} {d : Draw β} (h : d.Raises E)
    (hi : ∀ fault, E fault → F fault) :
    d.Raises F := ⟨fun hs => hi _ (h.fault hs)⟩

theorem Raises.pure (x : β) : Raises E (Pure.pure x : Draw β) := ⟨fun h => by cases h⟩

theorem Raises.throw {fault : Fault} (h : E fault) : Raises E (MonadExcept.throw fault : Draw β) :=
  ⟨fun hr => by cases hr; exact h⟩

theorem Raises.bind {d : Draw β} {k : β → Draw γ} (hd : d.Raises E) (hk : ∀ x, (k x).Raises E) :
    (d >>= k).Raises E := by
  have first : d.Yields (fun _ => True) E := ⟨hd, fun _ => trivial⟩
  have sequence : (d >>= k).Yields (fun _ => True) E :=
    first.bind fun x _ => ⟨hk x, fun _ => trivial⟩
  exact sequence.toRaises

end Draw

open Draw

variable {α : Type} {counted comparable : Prop}

/-! ## Values -/

namespace Value

/-- Whether the number of a value, if it is one, is one of some kind. -/
def All (N : α → Prop) : Value α → Prop
  | number n => N n
  | _ => True

theorem asNumber_yields (what : String) (v : Value α) :
    (v.asNumber what).Yields (fun n => v = .number n) (Fault.IsEvaluationOf counted comparable) := by
  refine (Yields.orFail trivial).mono (fun n found => ?_) fun _ raised => raised
  cases v with
  | number m => cases found; rfl
  | _ => cases found

theorem asEntity_yields (what : String) (v : Value α) :
    (v.asEntity what).Yields (fun _ => True) (Fault.IsEvaluationOf counted comparable) :=
  (Yields.orFail trivial).mono (fun _ _ => trivial) fun _ raised => raised

theorem asKey_yields (what : String) (v : Value α) :
    (v.asKey what).Yields (fun _ => True) (Fault.IsEvaluationOf counted comparable) := by
  refine (Yields.orFail trivial).bind fun key _ => ?_
  cases Identifier.rejection? key with
  | none => exact .pure trivial
  | some r => exact .fail trivial

theorem finite_yields [Scalar α] (what : String) (n : α) :
    (Value.finite what n).Yields (All fun x => Scalar.isFinite x = true)
      (Fault.IsEvaluationOf counted comparable) := by
  unfold finite
  by_cases finite : Scalar.isFinite n = true
  · rw [if_pos finite]
    exact .pure finite
  · rw [if_neg finite]
    exact .fail trivial

end Value

variable [Scalar α]

/-! ## Paths -/

namespace Bindings

omit [Scalar α] in
theorem position_yields (b : Bindings α) (what : String) (id : EntityId) :
    (b.position what id).Yields (fun _ => True) (Fault.IsEvaluationOf counted comparable) :=
  (Yields.orFail trivial).mono (fun _ _ => trivial) fun _ raised => raised

omit [Scalar α] in
theorem root_yields (b : Bindings α) (raw : String) (root : Root) :
    (b.root raw root).Yields (fun _ => True) (Fault.IsEvaluationOf counted comparable) := by
  cases root with
  | caster => exact .pure trivial
  | target => exact (Yields.orFail trivial).mono (fun _ _ => trivial) fun _ raised => raised

def Shows (b : Bindings α) (p : Path) (x : α) : Prop :=
  ∃ s s', b.read p s = .ok (.number x) s'

theorem read_yields (b : Bindings α) (p : Path) :
    (b.read p).Yields (Value.All (b.Shows p)) (Fault.IsEvaluationOf counted comparable) := by
  have reads : (b.read p).Yields (fun _ => True) (Fault.IsEvaluationOf counted comparable) := by
    unfold read
    cases p.access with
    | tick | entityCount => exact .pure trivial
    | entity root field =>
        refine (b.root_yields ..).bind fun id _ => (Yields.orFail trivial).bind fun e _ => ?_
        cases field with
        | positionX | positionY => exact (b.position_yields ..).bind fun _ _ => .pure trivial
        | _ => exact .pure trivial
  refine ⟨reads.toRaises, fun {s v s'} answered => ?_⟩
  cases v with
  | number x => exact ⟨s, s', answered⟩
  | _ => trivial

end Bindings

/-! ## Operators -/

theorem UnaryOp.apply_yields (op : UnaryOp) (v : Value α) :
    (op.apply v).Yields (Value.All fun n => op = .neg ∧ ∃ m, v = .number m ∧ n = -m)
      (Fault.IsEvaluationOf counted comparable) := by
  cases op with
  | not => exact .pure trivial
  | neg => exact (v.asNumber_yields _).bind fun m number => .pure ⟨rfl, m, number, rfl⟩

namespace BinaryOp

theorem applyNumbers_yields (op : BinaryOp) (a b : α) :
    (op.applyNumbers a b).Yields (Value.All fun n => Scalar.isFinite n = true)
      (Fault.IsEvaluationOf counted comparable) := by
  unfold applyNumbers
  split <;> try split
  all_goals first
    | exact .pure trivial
    | exact Value.finite_yields ..
    | exact .fail trivial

theorem apply_yields (op : BinaryOp) (left right : Value α) :
    (op.apply left right).Yields (Value.All fun n => Scalar.isFinite n = true)
      (Fault.IsEvaluationOf counted comparable) := by
  unfold apply
  split <;> try split
  all_goals first
    | exact .pure trivial
    | exact (Yields.orFail trivial).bind fun _ _ => .pure trivial
    | exact op.applyNumbers_yields ..
    | exact .fail trivial

end BinaryOp

/-! ## Functions -/

namespace Function

omit [Scalar α] in
theorem choose_yields (better : α → α → α) (what : String) (first : α) (vs : List (Value α)) :
    (choose better what first vs).Yields (fun _ => True)
      (Fault.IsEvaluationOf counted comparable) := by
  induction vs generalizing first with
  | nil => exact .pure trivial
  | cons v vs ih => exact (v.asNumber_yields what).bind fun n _ => ih (better first n)

/-- Bounds that are not the wrong way round are in order, where numbers can be compared. -/
theorem clampTo_yields (x low high : α) (ordered : comparable → ¬ high < low → low ≤ high) :
    (clampTo x low high).Yields (fun _ => True) (Fault.IsEvaluationOf counted comparable) := by
  unfold clampTo
  by_cases wrong : high < low
  · rw [if_pos wrong]
    exact .fail trivial
  · rw [if_neg wrong]
    unfold Quantity.confine?
    by_cases order : low ≤ high
    · rw [if_pos order]
      exact .pure trivial
    · rw [if_neg order]
      exact .throw fun comparable => order (ordered comparable wrong)

theorem apply_yields (b : Bindings α) (f : Function) (args : List (Value α)) {N : α → Prop}
    (ordered : comparable → ∀ x y, N x → N y → ¬ y < x → x ≤ y) (given : ∀ v ∈ args, v.All N) :
    (f.apply b args).Yields (Value.All fun n => Scalar.isFinite n = true)
      (Fault.IsEvaluationOf (f.takes args.length = true) comparable) := by
  unfold apply
  split
  case h_9 =>
    refine (Value.asNumber_yields ..).bind fun n _ => ?_
    split
    · exact .fail trivial
    · exact Value.finite_yields ..
  case h_10 x low high =>
    refine (Value.asNumber_yields ..).bind fun x' _ => ?_
    refine (Value.asNumber_yields ..).bind fun low' isLow => ?_
    refine (Value.asNumber_yields ..).bind fun high' isHigh => ?_
    have lowKind : N low' := by
      have kind := given low (by simp)
      rw [isLow] at kind
      exact kind
    have highKind : N high' := by
      have kind := given high (by simp)
      rw [isHigh] at kind
      exact kind
    refine (clampTo_yields _ _ _ fun can => ordered can _ _ lowKind highKind).bind fun _ _ => ?_
    exact Value.finite_yields ..
  case h_15 =>
    refine .fail fun counted => ?_
    rcases args with _ | ⟨a, _ | ⟨b, _ | ⟨c, _ | ⟨d, rest⟩⟩⟩⟩
    all_goals cases f <;> first | exact Bool.noConfusion counted | simp_all
  all_goals
    repeat first
      | exact Value.finite_yields ..
      | exact .pure trivial
      | refine (Value.asNumber_yields ..).bind fun _ _ => ?_
      | refine (Value.asEntity_yields ..).bind fun _ _ => ?_
      | refine (Value.asKey_yields ..).bind fun _ _ => ?_
      | refine (b.position_yields ..).bind fun _ _ => ?_
      | refine (choose_yields ..).bind fun _ _ => ?_
      | refine (Yields.draw _).bind fun _ _ => ?_

end Function

/-! ## Expressions -/

namespace Expr

mutual

/-- The paths that an expression reads, from left to right. -/
def paths {α : Type} : Expr α → List Path
  | number _ | bool _ | text _ => []
  | path p => [p]
  | unary _ e => e.paths
  | binary _ l r => l.paths ++ r.paths
  | call _ args => pathsAll args

def pathsAll {α : Type} : List (Expr α) → List Path
  | [] => []
  | e :: es => e.paths ++ pathsAll es

end

/-- A kind of numbers that finite numbers belong to and that signs do not lead out of.  If numbers are
comparable, those of this kind are in one order or in the other. -/
structure Keeps (N : α → Prop) (comparable : Prop) : Prop where
  finite : ∀ n, Scalar.isFinite n = true → N n
  neg : ∀ n, N n → N (-n)
  ordered : comparable → ∀ x y, N x → N y → ¬ y < x → x ≤ y

variable {N : α → Prop}

theorem Keeps.of_finite (keeps : Keeps N comparable) :
    ∀ v : Value α, (v.All fun n => Scalar.isFinite n = true) → v.All N := by
  intro v finite
  cases v with
  | number n => exact keeps.finite n finite
  | _ => trivial

mutual

/-- If the numbers that are read are of a kind, so are all numbers that are computed from them. -/
theorem eval_yields (b : Bindings α) (keeps : Keeps N comparable) : ∀ e : Expr α,
    (∀ p ∈ e.paths, ∀ x, b.Shows p x → N x) →
      (e.eval b).Yields (Value.All N) (Fault.IsEvaluationOf False comparable)
  | number n, _ => (Value.finite_yields "literal" n).mono keeps.of_finite fun _ raised => raised
  | bool _, _ | text _, _ => .pure trivial
  | path p, reads => by
      refine (b.read_yields p).mono (fun v shows => ?_) fun _ raised => raised
      cases v with
      | number x => exact reads p (by simp [paths]) x shows
      | _ => trivial
  | unary op e, reads => by
      refine (eval_yields b keeps e reads).bind fun v operand => ?_
      refine (op.apply_yields v).mono (fun result negated => ?_) fun _ raised => raised
      cases result with
      | number n =>
          obtain ⟨-, m, rfl, rfl⟩ := negated
          exact keeps.neg m operand
      | _ => trivial
  | binary op l r, reads => by
      obtain ⟨left, right⟩ := List.forall_mem_append.mp reads
      unfold eval
      refine (eval_yields b keeps l left).bind fun v _ => ?_
      cases op.decide? v with
      | some decided => exact .pure trivial
      | none =>
          refine (eval_yields b keeps r right).bind fun w _ => ?_
          exact (op.apply_yields v w).mono keeps.of_finite fun _ raised => raised
  | call name args, reads => by
      unfold eval
      refine (Yields.ofExcept Fault.IsEvaluationOf.uncounted).bind fun f _ => ?_
      refine (Yields.ofExcept Fault.IsEvaluationOf.uncounted).bind fun _ _ => ?_
      refine (evalAll_yields b keeps args reads).bind fun values listed => ?_
      refine (f.apply_yields b values keeps.ordered listed).mono keeps.of_finite fun _ raised => ?_
      exact raised.weaken False.elim id

theorem evalAll_yields (b : Bindings α) (keeps : Keeps N comparable) : ∀ es : List (Expr α),
    (∀ p ∈ pathsAll es, ∀ x, b.Shows p x → N x) →
      (evalAll b es).Yields (fun vs => ∀ v ∈ vs, v.All N) (Fault.IsEvaluationOf False comparable)
  | [], _ => .pure fun _ listed => absurd listed List.not_mem_nil
  | e :: es, reads => by
      obtain ⟨first, others⟩ := List.forall_mem_append.mp reads
      unfold evalAll
      refine (eval_yields b keeps e first).bind fun v one => ?_
      refine (evalAll_yields b keeps es others).bind fun vs rest => ?_
      exact .pure (List.forall_mem_cons.mpr ⟨one, rest⟩)

end

section

variable (b : Bindings α) (e : Expr α) (keeps : Keeps N comparable)
  (reads : ∀ p ∈ e.paths, ∀ x, b.Shows p x → N x)
include keeps reads

theorem evalNumber_yields :
    (e.evalNumber b).Yields N (Fault.IsEvaluationOf False comparable) := by
  refine (e.eval_yields b keeps reads).bind fun v one => ?_
  refine (v.asNumber_yields _).mono (fun n number => ?_) fun _ raised => raised
  rw [number] at one
  exact one

theorem evalBool_yields :
    (e.evalBool b).Yields (fun _ => True) (Fault.IsEvaluationOf False comparable) :=
  (e.eval_yields b keeps reads).bind fun _ _ => .pure trivial

theorem evalWhole_yields :
    (e.evalWhole b).Yields (fun n => Scalar.isWhole n = true)
      (Fault.IsEvaluationOf False comparable) := by
  refine (e.evalNumber_yields b keeps reads).bind fun n _ => ?_
  by_cases whole : Scalar.isWhole n = true
  · rw [if_pos whole]
    exact .pure whole
  · rw [if_neg whole]
    exact .fail trivial

end

/-! ### Whatever is read -/

section

variable (b : Bindings α)

theorem Keeps.any : Keeps (fun _ : α => True) False :=
  ⟨fun _ _ => trivial, fun _ _ => trivial, False.elim⟩

theorem raises_eval (e : Expr α) : (e.eval b).Raises Fault.IsEvaluation :=
  (e.eval_yields b .any fun _ _ _ _ => trivial).toRaises.mono fun _ raised => raised.isEvaluation

theorem raises_evalNumber (e : Expr α) : (e.evalNumber b).Raises Fault.IsEvaluation :=
  (e.evalNumber_yields b .any fun _ _ _ _ => trivial).toRaises.mono fun _ raised =>
    raised.isEvaluation

theorem raises_evalBool (e : Expr α) : (e.evalBool b).Raises Fault.IsEvaluation :=
  (e.evalBool_yields b .any fun _ _ _ _ => trivial).toRaises.mono fun _ raised =>
    raised.isEvaluation

theorem raises_evalWhole (e : Expr α) : (e.evalWhole b).Raises Fault.IsEvaluation :=
  (e.evalWhole_yields b .any fun _ _ _ _ => trivial).toRaises.mono fun _ raised =>
    raised.isEvaluation

end

end Expr

end Grimoire
