import Grimoire.Proofs.Run.Faults

/-! # Expressions that draw no numbers

An expression in which neither `random` nor `random_int` is called, at any depth, comes to the same from
every random stream and leaves the stream as it was.  A call is looked up by its name only when it is
reached, so what is excluded is the two names, wherever they stand.
-/

namespace Grimoire

variable {α β γ : Type}

/-! ## Calls in expressions -/

namespace Expr

mutual

/-- The names of the functions that an expression calls, at any depth. -/
def calls : Expr α → List String
  | number _ | bool _ | path _ | text _ => []
  | unary _ e => e.calls
  | binary _ l r => l.calls ++ r.calls
  | call name args => name :: callsAll args

def callsAll : List (Expr α) → List String
  | [] => []
  | e :: es => e.calls ++ callsAll es

end

end Expr

/-- The names of functions that draw from the random stream. -/
def Function.drawing : List String := [Function.random.name, Function.randomInt.name]

def Expr.Seedless (e : Expr α) : Prop := ∀ name ∈ e.calls, name ∉ Function.drawing

/-! ## Draws that leave the stream alone -/

namespace Draw

/-- A draw that answers, or fails, whatever the stream is, and leaves it. -/
def settled (answer : Except Fault β) : Draw β :=
  match answer with
  | .ok x => pure x
  | .error fault => throw fault

/-- Whether a draw does not depend on the stream and leaves it. -/
def Settled (d : Draw β) : Prop := ∃ answer, d = settled answer

namespace Settled

theorem pure (x : β) : (Pure.pure x : Draw β).Settled := ⟨.ok x, rfl⟩

theorem throw (fault : Fault) : (MonadExcept.throw fault : Draw β).Settled := ⟨.error fault, rfl⟩

theorem bind {d : Draw β} {k : β → Draw γ} (hd : d.Settled) (hk : ∀ x, (k x).Settled) :
    (d >>= k).Settled := by
  obtain ⟨answer, rfl⟩ := hd
  cases answer with
  | ok x =>
      obtain ⟨answer', same⟩ := hk x
      exact ⟨answer', same⟩
  | error fault => exact ⟨.error fault, rfl⟩

theorem fail (cause : EvalFault) : (Draw.fail cause : Draw β).Settled := throw _

theorem orFail (x : Option β) (cause : EvalFault) : (Draw.orFail x cause).Settled := by
  cases x with
  | some x => exact pure x
  | none => exact fail cause

theorem ofExcept_bind {x : Except EvalFault β} {k : β → Draw γ}
    (hk : ∀ y, x = .ok y → (k y).Settled) : (Draw.ofExcept x >>= k).Settled := by
  cases x with
  | ok y => exact hk y rfl
  | error cause => exact fail cause

theorem ite {condition : Prop} [Decidable condition] {d d' : Draw β} (yes : d.Settled)
    (no : d'.Settled) : (if condition then d else d').Settled := by
  split
  · exact yes
  · exact no

end Settled

end Draw

open Draw

/-! ## Values -/

namespace Value

theorem asNumber_settled (what : String) (v : Value α) : (v.asNumber what).Settled := .orFail ..

theorem asEntity_settled (what : String) (v : Value α) : (v.asEntity what).Settled := .orFail ..

theorem asKey_settled (what : String) (v : Value α) : (v.asKey what).Settled := by
  refine (Settled.orFail ..).bind fun key => ?_
  split
  · exact .fail _
  · exact .pure key

end Value

variable [Scalar α]

theorem Value.finite_settled (what : String) (n : α) : (Value.finite what n).Settled :=
  .ite (.pure _) (.fail _)

theorem UnaryOp.apply_settled (op : UnaryOp) (v : Value α) : (op.apply v).Settled := by
  cases op with
  | not => exact .pure _
  | neg => exact (v.asNumber_settled _).bind fun n => .pure _

namespace BinaryOp

theorem applyNumbers_settled (op : BinaryOp) (a b : α) : (op.applyNumbers a b).Settled := by
  cases op with
  | add | sub | mul => exact Value.finite_settled ..
  | lt | le | gt | ge => exact .pure _
  | _ => exact .ite (.fail _) (Value.finite_settled ..)

theorem apply_settled (op : BinaryOp) (left right : Value α) : (op.apply left right).Settled := by
  unfold apply
  split
  · exact .pure _
  · exact .pure _
  · exact (Settled.orFail ..).bind fun equal => .pure _
  · exact (Settled.orFail ..).bind fun equal => .pure _
  · split
    · exact op.applyNumbers_settled ..
    · exact .fail _

end BinaryOp

namespace Bindings

variable (b : Bindings α)

omit [Scalar α] in
theorem position_settled (what : String) (id : EntityId) : (b.position what id).Settled :=
  .orFail ..

theorem readField_settled (raw : String) (id : EntityId) (e : Entity α) (field : EntityField) :
    (b.readField raw id e field).Settled := by
  cases field with
  | positionX | positionY => exact (b.position_settled raw id).bind fun p => .pure _
  | _ => exact .pure _

omit [Scalar α] in
theorem root_settled (raw : String) (root : Root) : (b.root raw root).Settled := by
  cases root with
  | caster => exact .pure _
  | target => exact .orFail ..

theorem read_settled (p : Path) : (b.read p).Settled := by
  unfold read
  cases p.access with
  | tick | entityCount => exact .pure _
  | entity root field =>
      refine (b.root_settled p.raw root).bind fun id => (Settled.orFail ..).bind fun e => ?_
      exact b.readField_settled ..

end Bindings

/-! ## Functions -/

namespace Function

omit [Scalar α] in
theorem choose_settled (better : α → α → α) (what : String) (first : α) (rest : List (Value α)) :
    (choose better what first rest).Settled := by
  induction rest generalizing first with
  | nil => exact .pure first
  | cons v vs ih => exact (v.asNumber_settled what).bind fun n => ih (better first n)

theorem clampTo_settled (x low high : α) : (clampTo x low high).Settled := by
  refine .ite (.fail _) ?_
  split
  · exact .pure _
  · exact .throw _

theorem apply_settled (b : Bindings α) (f : Function) (args : List (Value α))
    (still : f.name ∉ drawing) : (f.apply b args).Settled := by
  unfold apply
  split
  case h_1 | h_2 => exact absurd (by decide) still
  case h_9 =>
    exact (Value.asNumber_settled ..).bind fun n => .ite (.fail _) (Value.finite_settled ..)
  case h_15 => exact .fail _
  all_goals
    repeat first
      | exact Value.finite_settled ..
      | exact .pure _
      | refine (Value.asNumber_settled ..).bind fun _ => ?_
      | refine (Value.asEntity_settled ..).bind fun _ => ?_
      | refine (Value.asKey_settled ..).bind fun _ => ?_
      | refine (b.position_settled ..).bind fun _ => ?_
      | refine (choose_settled ..).bind fun _ => ?_
      | refine (clampTo_settled ..).bind fun _ => ?_

theorem name_of_ofName {name : String} {f : Function} (found : ofName name = .ok f) :
    f.name = name := by
  unfold ofName at found
  split at found
  · cases found
  · split at found
    · next found' =>
        cases found
        simpa using List.find?_some found'
    · cases found

end Function

/-! ## Expressions -/

namespace Expr

mutual

theorem eval_settled (b : Bindings α) : ∀ e : Expr α, e.Seedless → (e.eval b).Settled
  | number n, _ => Value.finite_settled "literal" n
  | bool _, _ | text _, _ => .pure _
  | path p, _ => b.read_settled p
  | unary op e, seedless => (eval_settled b e seedless).bind fun v => op.apply_settled v
  | binary op l r, seedless => by
      obtain ⟨left, right⟩ := List.forall_mem_append.mp seedless
      unfold eval
      refine (eval_settled b l left).bind fun v => ?_
      cases op.decide? v with
      | some decided => exact .pure _
      | none => exact (eval_settled b r right).bind fun w => op.apply_settled v w
  | call name args, seedless => by
      obtain ⟨still, rest⟩ := List.forall_mem_cons.mp seedless
      unfold eval
      refine .ofExcept_bind fun f found => .ofExcept_bind fun _ _ => ?_
      refine (evalAll_settled b args rest).bind fun values => f.apply_settled b values ?_
      rw [Function.name_of_ofName found]
      exact still

theorem evalAll_settled (b : Bindings α) :
    ∀ es : List (Expr α), (∀ name ∈ callsAll es, name ∉ Function.drawing) →
      (evalAll b es).Settled
  | [], _ => .pure _
  | e :: es, seedless => by
      obtain ⟨first, rest⟩ := List.forall_mem_append.mp seedless
      unfold evalAll
      refine (eval_settled b e first).bind fun v => ?_
      exact (evalAll_settled b es rest).bind fun vs => .pure _

end

variable {e : Expr α} (seedless : e.Seedless) (b : Bindings α)
include seedless

theorem evalNumber_settled : (e.evalNumber b).Settled :=
  (eval_settled b e seedless).bind fun v => v.asNumber_settled _

theorem evalBool_settled : (e.evalBool b).Settled :=
  (eval_settled b e seedless).bind fun _ => .pure _

theorem evalWhole_settled : (e.evalWhole b).Settled :=
  (evalNumber_settled seedless b).bind fun _ => .ite (.pure _) (.fail _)

end Expr

end Grimoire
