import Grimoire.Expression.Basic
import Grimoire.Proofs.Expression.Outcomes
import Grimoire.Proofs.Json.Record

/-! # The check of a draft

A draft is checked node by node, and every node by itself: an operator has to have the operands that its
token asks for, and a path has to be one.  `Draft.nodes` lists the nodes in the order of the check, each
before what is under it; the first node that is not as it has to be is the one whose fault is reported.

A draft that is accepted is what the expression is spelled as, so nothing of the tree is lost or moved.
-/

namespace Grimoire

open Json (ok_of_bind)

variable {α β γ : Type}

/-! ## Spelling -/

def Path.IsResolved (p : Path) : Prop := parse p.raw = .ok p

namespace Expr

/-- Whether all paths of an expression read what their texts stand for. -/
def IsResolved (e : Expr α) : Prop := ∀ p ∈ e.paths, p.IsResolved

mutual

def draft : Expr α → Draft α
  | number n => .number n
  | bool b => .bool b
  | path p => .path p.raw
  | text s => .text s
  | binary op l r => .operator op.token (some l.draft) (some r.draft) none
  | unary op e => .operator op.token none none (some e.draft)
  | call function args => .call function (draftAll args)

def draftAll : List (Expr α) → List (Draft α)
  | [] => []
  | e :: es => e.draft :: draftAll es

end

end Expr

/-! ## Tokens -/

theorem BinaryOp.ofToken?_eq_some_iff {token : String} {op : BinaryOp} :
    ofToken? token = some op ↔ op.token = token := by
  refine ⟨fun found => by simpa using List.find?_some found, ?_⟩
  rintro rfl
  exact ofToken?_token op

theorem UnaryOp.ofToken?_eq_some_iff {token : String} {op : UnaryOp} :
    ofToken? token = some op ↔ op.token = token := by
  refine ⟨fun found => by simpa using List.find?_some found, ?_⟩
  rintro rfl
  exact ofToken?_token op

/-! ## Nodes -/

namespace Draft

mutual

/-- The nodes of a draft, each before its operands or arguments, and these from left to right. -/
def nodes : Draft α → List (Draft α)
  | operator token left right operand =>
    operator token left right operand :: (nodesOf left ++ (nodesOf right ++ nodesOf operand))
  | call function args => call function args :: nodesAll args
  | number n => [number n]
  | bool b => [bool b]
  | path raw => [path raw]
  | text s => [text s]

def nodesOf : Option (Draft α) → List (Draft α)
  | none => []
  | some d => d.nodes

def nodesAll : List (Draft α) → List (Draft α)
  | [] => []
  | d :: ds => d.nodes ++ nodesAll ds

end

/-- The nodes that are as they have to be. -/
inductive Fits : Draft α → Prop where
  | number (n : α) : Fits (number n)
  | bool (b : Bool) : Fits (bool b)
  | text (s : String) : Fits (text s)
  | call (function : String) (args : List (Draft α)) : Fits (call function args)
  | path {raw p} (parsed : Path.parse raw = .ok p) : Fits (path raw)
  | binary (op : BinaryOp) (left right : Draft α) :
      Fits (operator op.token (some left) (some right) none)
  | unary (op : UnaryOp) (operand : Draft α) : Fits (operator op.token none none (some operand))

/-- What can be wrong with a node.  The operands of an operator come before its token. -/
inductive Flawed : Draft α → ExprFault → Prop where
  | path {raw fault} (refused : Path.parse raw = .error fault) : Flawed (path raw) (.path raw fault)
  | operands {token left right operand}
      (notTwo : ¬ (left.isSome ∧ right.isSome ∧ operand.isNone))
      (notOne : ¬ (left.isNone ∧ right.isNone ∧ operand.isSome)) :
      Flawed (operator token left right operand) (.operands token)
  | binary {token} (left right : Draft α) (unknown : ∀ op : BinaryOp, op.token ≠ token) :
      Flawed (operator token (some left) (some right) none) (.unknownBinary token)
  | unary {token} (operand : Draft α) (unknown : ∀ op : UnaryOp, op.token ≠ token) :
      Flawed (operator token none none (some operand)) (.unknownUnary token)

def fault? : Draft α → Option ExprFault
  | path raw => match Path.parse raw with
    | .ok _ => none
    | .error fault => some (.path raw fault)
  | operator token (some _) (some _) none =>
    if (BinaryOp.ofToken? token).isSome then none else some (.unknownBinary token)
  | operator token none none (some _) =>
    if (UnaryOp.ofToken? token).isSome then none else some (.unknownUnary token)
  | operator token _ _ _ => some (.operands token)
  | number _ | bool _ | text _ | call .. => none

theorem Fits.fault?_eq_none {d : Draft α} (fits : d.Fits) : d.fault? = none := by
  cases fits with
  | path parsed => rw [fault?, parsed]
  | binary op => rw [fault?, BinaryOp.ofToken?_token]; rfl
  | unary op => rw [fault?, UnaryOp.ofToken?_token]; rfl
  | _ => rfl

theorem Flawed.fault?_eq_some {d : Draft α} {fault : ExprFault} (flawed : d.Flawed fault) :
    d.fault? = some fault := by
  cases flawed with
  | path refused => rw [fault?, refused]
  | @operands token left right operand notTwo notOne =>
      cases left <;> cases right <;> cases operand <;> first | rfl | simp at notTwo notOne
  | binary left right unknown =>
      have none := Option.eq_none_iff_forall_ne_some.mpr fun op found =>
        unknown op (BinaryOp.ofToken?_eq_some_iff.mp found)
      rw [fault?, none]
      rfl
  | unary operand unknown =>
      have none := Option.eq_none_iff_forall_ne_some.mpr fun op found =>
        unknown op (UnaryOp.ofToken?_eq_some_iff.mp found)
      rw [fault?, none]
      rfl

theorem fits_or_flawed : ∀ d : Draft α, d.Fits ∨ ∃ fault, d.Flawed fault
  | number n => .inl (.number n)
  | bool b => .inl (.bool b)
  | text s => .inl (.text s)
  | call function args => .inl (.call function args)
  | path raw => by
      cases parsed : Path.parse raw with
      | ok p => exact .inl (.path parsed)
      | error fault => exact .inr ⟨_, .path parsed⟩
  | operator token (some left) (some right) none => by
      by_cases known : ∃ op : BinaryOp, op.token = token
      · obtain ⟨op, rfl⟩ := known
        exact .inl (.binary op left right)
      · exact .inr ⟨_, .binary left right (not_exists.mp known)⟩
  | operator token none none (some operand) => by
      by_cases known : ∃ op : UnaryOp, op.token = token
      · obtain ⟨op, rfl⟩ := known
        exact .inl (.unary op operand)
      · exact .inr ⟨_, .unary operand (not_exists.mp known)⟩
  | operator token none none none => .inr ⟨_, .operands (by simp) (by simp)⟩
  | operator token none (some _) _ => .inr ⟨_, .operands (by simp) (by simp)⟩
  | operator token (some _) none _ => .inr ⟨_, .operands (by simp) (by simp)⟩
  | operator token (some _) (some _) (some _) => .inr ⟨_, .operands (by simp) (by simp)⟩

theorem fault?_eq_none_iff {d : Draft α} : d.fault? = none ↔ d.Fits := by
  refine ⟨fun sound => d.fits_or_flawed.resolve_right ?_, Fits.fault?_eq_none⟩
  rintro ⟨fault, flawed⟩
  cases sound.symm.trans flawed.fault?_eq_some

theorem fault?_eq_some_iff {d : Draft α} {fault : ExprFault} :
    d.fault? = some fault ↔ d.Flawed fault := by
  refine ⟨fun found => ?_, Flawed.fault?_eq_some⟩
  rcases d.fits_or_flawed with fits | ⟨other, flawed⟩
  · cases fits.fault?_eq_none.symm.trans found
  · cases flawed.fault?_eq_some.symm.trans found
    exact flawed

/-! ## Refusals -/

def refusal : Except ExprFault β → Option ExprFault
  | .ok _ => none
  | .error fault => some fault

theorem refusal_eq_none_iff {x : Except ExprFault β} : refusal x = none ↔ ∃ b, x = .ok b := by
  cases x <;> simp [refusal]

theorem refusal_eq_some_iff {x : Except ExprFault β} {fault : ExprFault} :
    refusal x = some fault ↔ x = .error fault := by
  cases x <;> simp [refusal]

theorem refusal_bind {x : Except ExprFault β} {k : β → Except ExprFault γ} {rest : Option ExprFault}
    (h : ∀ b, refusal (k b) = rest) : refusal (x >>= k) = (refusal x).or rest := by
  cases x with
  | ok b => exact h b
  | error fault => rfl

theorem refusal_bind_pure (x : Except ExprFault β) (f : β → γ) :
    refusal (x >>= fun b => pure (f b)) = refusal x := by
  cases x <;> rfl

mutual

theorem refusal_check : ∀ d : Draft α, refusal d.check = d.nodes.findSome? fault?
  | number n => rfl
  | bool b => rfl
  | text s => rfl
  | path raw => by
      rw [check, nodes, List.findSome?_cons, fault?]
      cases Path.parse raw <;> rfl
  | operator token (some left) (some right) none => by
      rw [check, nodes, List.findSome?_cons, fault?, nodesOf, nodesOf, nodesOf, List.append_nil,
        List.findSome?_append, ← refusal_check left, ← refusal_check right]
      cases BinaryOp.ofToken? token with
      | none => rfl
      | some op => exact refusal_bind fun l => refusal_bind_pure ..
  | operator token none none (some operand) => by
      have one : nodesOf (none : Option (Draft α)) ++ (nodesOf none ++ nodesOf (some operand)) =
          operand.nodes := rfl
      rw [check, nodes, List.findSome?_cons, fault?, one, ← refusal_check operand]
      cases UnaryOp.ofToken? token with
      | none => rfl
      | some op => exact refusal_bind_pure ..
  | operator token none none none => rfl
  | operator token none (some _) _ => rfl
  | operator token (some _) none _ => rfl
  | operator token (some _) (some _) (some _) => rfl
  | call function args => by
      rw [check, nodes, List.findSome?_cons, fault?, ← refusal_checkAll args]
      exact refusal_bind_pure ..

theorem refusal_checkAll : ∀ ds : List (Draft α), refusal (checkAll ds) = (nodesAll ds).findSome? fault?
  | [] => rfl
  | d :: ds => by
      rw [checkAll, nodesAll, List.findSome?_append, ← refusal_check d, ← refusal_checkAll ds]
      exact refusal_bind fun e => refusal_bind_pure ..

end

/-! ## Acceptance -/

mutual

theorem draft_of_check : ∀ {d : Draft α} {e : Expr α}, d.check = .ok e → e.draft = d ∧ e.IsResolved
  | number n, e, h => by
      cases h
      exact ⟨rfl, fun _ listed => absurd listed List.not_mem_nil⟩
  | bool b, e, h => by
      cases h
      exact ⟨rfl, fun _ listed => absurd listed List.not_mem_nil⟩
  | text s, e, h => by
      cases h
      exact ⟨rfl, fun _ listed => absurd listed List.not_mem_nil⟩
  | path raw, e, h => by
      rw [check] at h
      split at h
      next p parsed =>
        cases h
        have raw_eq := Path.raw_of_parse parsed
        refine ⟨congrArg path raw_eq, fun q listed => ?_⟩
        cases List.mem_singleton.mp listed
        rwa [Path.IsResolved, raw_eq]
      · cases h
  | operator token (some left) (some right) none, e, h => by
      rw [check] at h
      split at h
      · cases h
      next op found =>
        obtain ⟨l, hl, h⟩ := ok_of_bind h
        obtain ⟨r, hr, h⟩ := ok_of_bind h
        cases h
        obtain ⟨left_eq, resolved⟩ := draft_of_check hl
        obtain ⟨right_eq, resolved'⟩ := draft_of_check hr
        refine ⟨?_, List.forall_mem_append.mpr ⟨resolved, resolved'⟩⟩
        rw [Expr.draft, left_eq, right_eq, BinaryOp.ofToken?_eq_some_iff.mp found]
  | operator token none none (some operand), e, h => by
      rw [check] at h
      split at h
      · cases h
      next op found =>
        obtain ⟨x, hx, h⟩ := ok_of_bind h
        cases h
        obtain ⟨operand_eq, resolved⟩ := draft_of_check hx
        refine ⟨?_, fun p listed => resolved p listed⟩
        rw [Expr.draft, operand_eq, UnaryOp.ofToken?_eq_some_iff.mp found]
  | operator token none none none, e, h => by cases h
  | operator token none (some _) _, e, h => by cases h
  | operator token (some _) none _, e, h => by cases h
  | operator token (some _) (some _) (some _), e, h => by cases h
  | call function args, e, h => by
      rw [check] at h
      obtain ⟨es, hes, h⟩ := ok_of_bind h
      cases h
      obtain ⟨args_eq, resolved⟩ := drafts_of_checkAll hes
      exact ⟨congrArg (call function) args_eq, resolved⟩

theorem drafts_of_checkAll : ∀ {ds : List (Draft α)} {es : List (Expr α)},
    checkAll ds = .ok es → Expr.draftAll es = ds ∧ ∀ p ∈ Expr.pathsAll es, p.IsResolved
  | [], es, h => by
      cases h
      exact ⟨rfl, fun _ listed => absurd listed List.not_mem_nil⟩
  | d :: ds, es, h => by
      rw [checkAll] at h
      obtain ⟨e, hd, h⟩ := ok_of_bind h
      obtain ⟨es, hds, h⟩ := ok_of_bind h
      cases h
      obtain ⟨head_eq, resolved⟩ := draft_of_check hd
      obtain ⟨tail_eq, resolved'⟩ := drafts_of_checkAll hds
      exact ⟨congrArg₂ _ head_eq tail_eq, List.forall_mem_append.mpr ⟨resolved, resolved'⟩⟩

end

end Draft

namespace Expr

mutual

/-- What an expression is spelled as is accepted, if its paths are what they stand for. -/
theorem check_draft : ∀ {e : Expr α}, e.IsResolved → e.draft.check = .ok e
  | number n, _ => rfl
  | bool b, _ => rfl
  | text s, _ => rfl
  | path p, h => by
      have resolved : Path.parse p.raw = .ok p := h p List.mem_cons_self
      rw [draft, Draft.check, resolved]
  | binary op l r, h => by
      obtain ⟨hl, hr⟩ := List.forall_mem_append.mp h
      rw [draft, Draft.check, BinaryOp.ofToken?_token, check_draft hl, check_draft hr]
      rfl
  | unary op e, h => by
      have he : e.IsResolved := h
      rw [draft, Draft.check, UnaryOp.ofToken?_token, check_draft he]
      rfl
  | call function args, h => by
      have ha : ∀ p ∈ pathsAll args, p.IsResolved := h
      rw [draft, Draft.check, checkAll_draft ha]
      rfl

theorem checkAll_draft : ∀ {es : List (Expr α)}, (∀ p ∈ pathsAll es, p.IsResolved) →
    Draft.checkAll (draftAll es) = .ok es
  | [], _ => rfl
  | e :: es, h => by
      obtain ⟨he, hes⟩ := List.forall_mem_append.mp h
      rw [draftAll, Draft.checkAll, check_draft he, checkAll_draft hes]
      rfl

end

end Expr

namespace Draft

theorem check_eq_ok_iff {d : Draft α} {e : Expr α} : d.check = .ok e ↔ e.draft = d ∧ e.IsResolved := by
  refine ⟨draft_of_check, ?_⟩
  rintro ⟨rfl, resolved⟩
  exact Expr.check_draft resolved

/-- A draft is accepted exactly if every node of it is sound, and then as the expression that it spells;
otherwise the fault is that of the first node that is not sound. -/
theorem check_node_by_node (d : Draft α) :
    (∀ e, d.check = .ok e ↔ e.draft = d ∧ e.IsResolved) ∧
      ((∃ e, d.check = .ok e) ↔ ∀ n ∈ d.nodes, n.Fits) ∧
        ∀ fault, d.check = .error fault ↔ ∃ before n after, d.nodes = before ++ n :: after ∧
          (∀ m ∈ before, m.Fits) ∧ n.Flawed fault := by
  refine ⟨fun e => check_eq_ok_iff, ?_, fun fault => ?_⟩
  · rw [← refusal_eq_none_iff, refusal_check, List.findSome?_eq_none_iff]
    simp only [fault?_eq_none_iff]
  · rw [← refusal_eq_some_iff, refusal_check, List.findSome?_eq_some_iff]
    simp only [fault?_eq_none_iff, fault?_eq_some_iff]
    constructor
    · rintro ⟨before, n, after, split, flawed, kept⟩
      exact ⟨before, n, after, split, kept, flawed⟩
    · rintro ⟨before, n, after, split, kept, flawed⟩
      exact ⟨before, n, after, split, flawed, kept⟩

end Draft

end Grimoire
