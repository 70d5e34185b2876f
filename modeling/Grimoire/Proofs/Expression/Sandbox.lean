import Grimoire.Proofs.Expression.Finite

/-! # What an evaluation can see

An expression sees the tick, how many entities there are, and the entities that are bound to it.  Where
these are the same, evaluations answer the same, fail alike and draw the same numbers, whatever else is
in the world.

References are values, and functions look up what they refer to.  So the proof carries along that every
reference which comes up is to a bound entity: no operator and no function makes one.
-/

namespace Grimoire

open Draw

variable {α β γ : Type}

namespace Bindings

/-- Whether an entity is bound: as the caster or as the target. -/
def Binds (b : Bindings α) (id : EntityId) : Prop := id = b.caster ∨ b.target = some id

/-- Whether the same entities are bound in two worlds and, they and their number and the tick, are the
same in both. -/
structure Alike (b b' : Bindings α) : Prop where
  caster : b'.caster = b.caster
  target : b'.target = b.target
  tick : b'.world.tick = b.world.tick
  count : b'.world.count = b.world.count
  entity : ∀ id, b.Binds id → b'.world.entity? id = b.world.entity? id

end Bindings

/-- Whether a value, if it is a reference, is one to an entity of some kind. -/
def Value.Refers (known : EntityId → Prop) : Value α → Prop
  | entity id => known id
  | _ => True

/-! ## Draws that agree -/

namespace Draw

variable {P : β → Prop} {Q : γ → Prop}

/-- Whether two draws are the same, with answers of one kind. -/
structure Agrees (P : β → Prop) (d d' : Draw β) : Prop where
  same : d' = d
  yields : d.Yields P (Fault.IsEvaluationOf False False)

namespace Agrees

theorem refl {d : Draw β} (h : d.Yields P (Fault.IsEvaluationOf False False)) : Agrees P d d :=
  ⟨rfl, h⟩

theorem bind {d d' : Draw β} {k k' : β → Draw γ} (hd : Agrees P d d')
    (hk : ∀ x, P x → Agrees Q (k x) (k' x)) : Agrees Q (d >>= k) (d' >>= k') := by
  obtain ⟨rfl, yields⟩ := hd
  constructor
  · funext s
    cases first : d' s with
    | ok x s₁ =>
        have next := (hk x (yields.answer first)).same
        rw [Run.bind_ok first, Run.bind_ok first, next]
    | error fault s₁ => rw [Run.bind_error first, Run.bind_error first]
  · exact yields.bind fun x one => (hk x one).yields

end Agrees

end Draw

variable [Scalar α] {known : EntityId → Prop} {b b' : Bindings α}

/-! ## Values that are computed -/

omit [Scalar α] in
theorem Value.asEntity_refers (what : String) {v : Value α} (h : v.Refers known) :
    (v.asEntity what).Yields known (Fault.IsEvaluationOf False False) := by
  cases v with
  | entity id => exact .pure h
  | _ => exact .fail trivial

theorem Value.finite_refers (what : String) (n : α) :
    (Value.finite what n).Yields (Refers known) (Fault.IsEvaluationOf False False) := by
  unfold finite
  by_cases finite : Scalar.isFinite n = true
  · rw [if_pos finite]
    exact .pure trivial
  · rw [if_neg finite]
    exact .fail trivial

theorem UnaryOp.apply_refers (op : UnaryOp) (v : Value α) :
    (op.apply v).Yields (Value.Refers known) (Fault.IsEvaluationOf False False) := by
  cases op with
  | not => exact .pure trivial
  | neg => exact (v.asNumber_yields _).bind fun _ _ => .pure trivial

namespace BinaryOp

theorem applyNumbers_refers (op : BinaryOp) (m n : α) :
    (op.applyNumbers m n).Yields (Value.Refers known) (Fault.IsEvaluationOf False False) := by
  unfold applyNumbers
  split <;> try split
  all_goals first
    | exact .pure trivial
    | exact Value.finite_refers ..
    | exact .fail trivial

theorem apply_refers (op : BinaryOp) (left right : Value α) :
    (op.apply left right).Yields (Value.Refers known) (Fault.IsEvaluationOf False False) := by
  unfold apply
  split <;> try split
  all_goals first
    | exact .pure trivial
    | exact (Yields.orFail trivial).bind fun _ _ => .pure trivial
    | exact op.applyNumbers_refers ..
    | exact .fail trivial

end BinaryOp

/-! ## What is looked up -/

namespace Bindings

omit [Scalar α] in
theorem position_agrees (h : b.Alike b') (what : String) {id : EntityId} (bound : b.Binds id) :
    Agrees (fun _ => True) (b.position what id) (b'.position what id) := by
  refine ⟨?_, b.position_yields what id⟩
  unfold position World.get?
  rw [h.entity id bound]

omit [Scalar α] in
theorem root_agrees (h : b.Alike b') (raw : String) (root : Root) :
    Agrees b.Binds (b.root raw root) (b'.root raw root) := by
  cases root with
  | caster =>
      unfold Bindings.root
      rw [h.caster]
      exact .refl (.pure (.inl rfl))
  | target =>
      unfold Bindings.root
      rw [h.target]
      exact .refl ((Yields.orFail trivial).mono (fun _ bound => .inr bound) fun _ raised => raised)

theorem readField_agrees (h : b.Alike b') (raw : String) {id : EntityId} (bound : b.Binds id)
    (e : Entity α) (field : EntityField) :
    Agrees (Value.Refers b.Binds) (b.readField raw id e field) (b'.readField raw id e field) := by
  cases field with
  | reference => exact .refl (.pure bound)
  | positionX | positionY =>
      exact (position_agrees h raw bound).bind fun _ _ => .refl (.pure trivial)
  | _ => exact .refl (.pure trivial)

theorem read_agrees (h : b.Alike b') (p : Path) :
    Agrees (Value.Refers b.Binds) (b.read p) (b'.read p) := by
  unfold read
  cases p.access with
  | tick =>
      simp only [h.tick]
      exact .refl (.pure trivial)
  | entityCount =>
      simp only [h.count]
      exact .refl (.pure trivial)
  | entity root field =>
      refine (root_agrees h p.raw root).bind fun id bound => ?_
      rw [h.entity id bound]
      have found (x : Option (Entity α)) : Agrees (fun _ => True)
          (Draw.orFail x (.missingEntity p.raw id)) (Draw.orFail x (.missingEntity p.raw id)) :=
        .refl ((Yields.orFail trivial).mono (fun _ _ => trivial) fun _ raised => raised)
      exact (found _).bind fun e _ => readField_agrees h p.raw bound e field

end Bindings

/-! ## Functions -/

namespace Function

theorem apply_refers (b : Bindings α) (f : Function) (args : List (Value α)) :
    (f.apply b args).Yields (Value.Refers known) (Fault.IsEvaluationOf False False) := by
  unfold apply
  split
  case h_9 =>
    refine (Value.asNumber_yields ..).bind fun n _ => ?_
    by_cases negative : n < 0
    · rw [if_pos negative]
      exact .fail trivial
    · rw [if_neg negative]
      exact Value.finite_refers ..
  case h_15 => exact .fail not_false
  all_goals
    repeat first
      | exact Value.finite_refers ..
      | exact .pure trivial
      | refine (Value.asNumber_yields ..).bind fun _ _ => ?_
      | refine (Value.asEntity_yields ..).bind fun _ _ => ?_
      | refine (Value.asKey_yields ..).bind fun _ _ => ?_
      | refine (b.position_yields ..).bind fun _ _ => ?_
      | refine (choose_yields ..).bind fun _ _ => ?_
      | refine (clampTo_yields _ _ _ False.elim).bind fun _ _ => ?_
      | refine (Yields.draw _).bind fun _ _ => ?_

omit [Scalar α] in
theorem stacksOf_alike (h : b.Alike b') {id : EntityId} (bound : b.Binds id) (status : String) :
    stacksOf b' id status = stacksOf b id status := by
  unfold stacksOf
  rw [h.entity id bound]

theorem apply_two (h : b.Alike b') (f : Function) {v u : Value α} (first : v.Refers b.Binds)
    (second : u.Refers b.Binds) :
    Agrees (Value.Refers b.Binds) (f.apply b [v, u]) (f.apply b' [v, u]) := by
  have entity {v : Value α} (what : String) (one : v.Refers b.Binds) :
      Agrees b.Binds (v.asEntity what) (v.asEntity what) := .refl (v.asEntity_refers what one)
  have key (v : Value α) (what : String) :
      Agrees (fun _ => True) (v.asKey what) (v.asKey what) := .refl (v.asKey_yields what)
  cases f with
  | distance =>
      refine (entity _ first).bind fun id bound => ?_
      refine (Bindings.position_agrees h _ bound).bind fun p _ => ?_
      refine (entity _ second).bind fun other bound' => ?_
      refine (Bindings.position_agrees h _ bound').bind fun q _ => ?_
      exact .refl (Value.finite_refers ..)
  | hasStatus =>
      refine (entity _ first).bind fun id bound => (key u _).bind fun status _ => ?_
      rw [stacksOf_alike h bound]
      exact .refl (.pure trivial)
  | stackCount =>
      refine (entity _ first).bind fun id bound => (key u _).bind fun status _ => ?_
      rw [stacksOf_alike h bound]
      exact .refl (Value.finite_refers ..)
  | hasComponent =>
      refine (entity _ first).bind fun id bound => (key u _).bind fun name _ => ?_
      rw [h.entity id bound]
      exact .refl (.pure trivial)
  | _ => exact ⟨rfl, apply_refers b _ [v, u]⟩

theorem apply_agrees (h : b.Alike b') (f : Function) {args : List (Value α)}
    (given : ∀ v ∈ args, v.Refers b.Binds) :
    Agrees (Value.Refers b.Binds) (f.apply b args) (f.apply b' args) := by
  refine ⟨?_, apply_refers b f args⟩
  rcases args with _ | ⟨v, _ | ⟨u, _ | ⟨r, _ | ⟨t, rest⟩⟩⟩⟩
  case cons.cons.nil => exact (apply_two h f (given v (by simp)) (given u (by simp))).same
  all_goals cases f <;> rfl

end Function

/-! ## Expressions -/

namespace Expr

mutual

theorem eval_agrees (h : b.Alike b') : ∀ e : Expr α,
    Agrees (Value.Refers b.Binds) (e.eval b) (e.eval b')
  | number n => .refl (Value.finite_refers "literal" n)
  | bool _ | text _ => .refl (.pure trivial)
  | path p => Bindings.read_agrees h p
  | unary op e => (eval_agrees h e).bind fun v _ => .refl (op.apply_refers v)
  | binary op l r => by
      unfold eval
      refine (eval_agrees h l).bind fun v _ => ?_
      cases op.decide? v with
      | some decided => exact .refl (.pure trivial)
      | none => exact (eval_agrees h r).bind fun w _ => .refl (op.apply_refers v w)
  | call name args => by
      unfold eval
      refine (Agrees.refl (Yields.ofExcept Fault.IsEvaluationOf.uncounted)).bind fun f _ => ?_
      refine (Agrees.refl (Yields.ofExcept Fault.IsEvaluationOf.uncounted)).bind fun _ _ => ?_
      exact (evalAll_agrees h args).bind fun values given => f.apply_agrees h given

theorem evalAll_agrees (h : b.Alike b') : ∀ es : List (Expr α),
    Agrees (fun vs => ∀ v ∈ vs, v.Refers b.Binds) (evalAll b es) (evalAll b' es)
  | [] => .refl (.pure fun _ listed => absurd listed List.not_mem_nil)
  | e :: es => by
      unfold evalAll
      refine (eval_agrees h e).bind fun v one => ?_
      refine (evalAll_agrees h es).bind fun vs rest => ?_
      exact .refl (.pure (List.forall_mem_cons.mpr ⟨one, rest⟩))

end

/-- Two worlds with the same tick and the same number of entities, and with the same caster and target,
give the same result of an expression and the same stream, for all kinds of evaluation. A reference that
results is to the caster or to the target. -/
theorem eval_sandboxed (e : Expr α) (caster : EntityId) (target : Option EntityId) {w w' : World α}
    (tick : w'.tick = w.tick) (count : w'.count = w.count)
    (own : w'.entity? caster = w.entity? caster)
    (bound : ∀ id, target = some id → w'.entity? id = w.entity? id) :
    let b : Bindings α := ⟨w, caster, target⟩
    let b' : Bindings α := ⟨w', caster, target⟩
    (∀ s, e.eval b' s = e.eval b s) ∧ (∀ s, e.evalNumber b' s = e.evalNumber b s) ∧
    (∀ s, e.evalBool b' s = e.evalBool b s) ∧ (∀ s, e.evalWhole b' s = e.evalWhole b s) ∧
    ∀ s id s', e.eval b s = .ok (.entity id) s' → id = caster ∨ target = some id := by
  intro b b'
  have alike : b.Alike b' := by
    refine ⟨rfl, rfl, tick, count, ?_⟩
    rintro id (rfl | aimed)
    · exact own
    · exact bound id aimed
  have agrees := eval_agrees alike e
  have number : e.evalNumber b' = e.evalNumber b := by
    unfold evalNumber
    rw [agrees.same]
  refine ⟨fun s => ?_, fun s => ?_, fun s => ?_, fun s => ?_, fun s id s' answered => ?_⟩
  · rw [agrees.same]
  · rw [number]
  · unfold evalBool
    rw [agrees.same]
  · unfold evalWhole
    rw [number]
  · exact agrees.yields.answer answered

end Expr

/-! ### Bystanders -/

def parley : World Float := ((World.create .empty "wizard").2.create "goblin").2

def heat : Expr Float :=
  .binary .add
    (.call "stacks" [.path ⟨"target", .entity .target .reference⟩, .text "burning"])
    (.path ⟨"world.entityCount", .entityCount⟩)

/-- Who else is there makes no difference. -/
theorem heat_sandboxed :
    let w := (parley.create "owl").2
    let w' := (parley.create "wolf").2
    (w'.entity? 3).map (·.typeName) ≠ (w.entity? 3).map (·.typeName) ∧
      ∀ s, heat.evalNumber ⟨w', 1, some 2⟩ s = heat.evalNumber ⟨w, 1, some 2⟩ s := by
  intro w w'
  have same (id : EntityId) (old : parley.nextId ≠ id) :
      w'.entity? id = w.entity? id := by
    have created (typeName : String) :
        (parley.create typeName).2.entity? id = parley.entity? id :=
      World.entity?_spawn_of_ne _ _ old
    exact (created "wolf").trans (created "owl").symm
  have tick : w'.tick = w.tick := by decide +kernel
  have count : w'.count = w.count := by decide +kernel
  have caster : w'.entity? 1 = w.entity? 1 := same 1 (by decide +kernel)
  have target (id : EntityId) (aimed : some 2 = some id) : w'.entity? id = w.entity? id := by
    cases aimed
    exact same 2 (by decide +kernel)
  have sandboxed := Expr.eval_sandboxed heat 1 (some 2) tick count caster target
  exact ⟨by decide +kernel, sandboxed.2.1⟩

end Grimoire
