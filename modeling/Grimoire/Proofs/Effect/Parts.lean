import Grimoire.Proofs.Run.Faults

/-! # What effects are made of

The operations in an effect, however deep, and the expressions in it: those that say whom it is for and
when, and those of its operations.  What a static check accepts, it accepts part by part.

An effect is literal if all its expressions are finite numbers that are written out.
-/

namespace Grimoire

variable {α : Type}

/-! ## Expressions -/

namespace Coordinates

def expressions (p : Coordinates α) : List (Expr α) := [p.x, p.y]

def expressions? : Option (Coordinates α) → List (Expr α)
  | none => []
  | some p => p.expressions

end Coordinates

def StackCount.expressions : StackCount α → List (Expr α)
  | all => []
  | count e => [e]

def Selector.expressions (s : Selector α) : List (Expr α) :=
  match s.filter with
  | none => []
  | some f => f.predicate.toList

def Action.expressions : Action α → List (Expr α)
  | dealDamage _ amount | heal amount => [amount]
  | applyStatus _ duration count => duration.toList ++ [count]
  | removeStatus _ count => count.expressions
  | modifyStat _ amount duration => amount :: duration.toList
  | setStat _ value => [value]
  | teleport destination => destination.expressions
  | push place distance | pull place distance => Coordinates.expressions? place ++ [distance]
  | spawnEntity _ count place | spawnItem _ count place =>
    count :: Coordinates.expressions? place
  | transformEntity _ duration => duration.toList
  | transformMaterial .. => []
  | emitEvent _ payload => payload.toList.map (·.2)

namespace Operation

/-- The expressions of an operation itself, without those of the operations in it. -/
def expressions : Operation α → List (Expr α)
  | act action => action.expressions
  | chain _ newTarget => newTarget.expressions
  | trigger _ => []
  | conditional condition .. => [condition]
  | iterate times _ => [times]
  | delay ticks _ => [ticks]

/-- The selectors of an operation itself, without those of the operations in it. -/
def selectors : Operation α → List (Selector α)
  | chain _ newTarget => [newTarget]
  | act _ | trigger _ | conditional .. | iterate .. | delay .. => []

/-! ## Operations -/

mutual

def parts : Operation α → List (Operation α)
  | act action => [act action]
  | chain effectId newTarget => [chain effectId newTarget]
  | trigger effectId => [trigger effectId]
  | conditional condition accepted none => conditional condition accepted none :: partsAll accepted
  | conditional condition accepted (some refused) =>
    conditional condition accepted (some refused) :: (partsAll accepted ++ partsAll refused)
  | iterate times body => iterate times body :: partsAll body
  | delay ticks body => delay ticks body :: partsAll body

def partsAll : List (Operation α) → List (Operation α)
  | [] => []
  | op :: ops => op.parts ++ partsAll ops

end

theorem mem_parts (op : Operation α) : op ∈ op.parts := by
  cases op with
  | conditional condition accepted refused =>
      cases refused <;> exact List.mem_cons_self
  | _ => exact List.mem_cons_self

end Operation

namespace Effect

def parts (e : Effect α) : List (Operation α) := Operation.partsAll e.operations

def expressions (e : Effect α) : List (Expr α) :=
  e.target.expressions ++ e.conditions ++ e.parts.flatMap Operation.expressions

end Effect

variable [Scalar α]

/-! ## Checks -/

namespace Operation

mutual

theorem check_of_mem_parts {v : Vocabulary} : ∀ {op : Operation α}, op.check v = .ok () →
    ∀ part ∈ op.parts, part.check v = .ok ()
  | act _, passed | chain _ _, passed | trigger _, passed =>
      List.forall_mem_singleton.mpr passed
  | conditional _ accepted none, passed => by
      refine List.forall_mem_cons.mpr ⟨passed, ?_⟩
      unfold check at passed
      exact check_of_mem_partsAll (Fault.ok_of_seq (Fault.ok_of_seq passed).2).1
  | conditional _ accepted (some refused), passed => by
      refine List.forall_mem_cons.mpr ⟨passed, List.forall_mem_append.mpr ?_⟩
      unfold check at passed
      obtain ⟨first, rest⟩ := Fault.ok_of_seq (Fault.ok_of_seq passed).2
      exact ⟨check_of_mem_partsAll first, check_of_mem_partsAll (Fault.ok_of_seq rest).2⟩
  | iterate _ body, passed | delay _ body, passed => by
      refine List.forall_mem_cons.mpr ⟨passed, ?_⟩
      unfold check at passed
      exact check_of_mem_partsAll (Fault.ok_of_seq (Fault.ok_of_seq passed).2).2

theorem check_of_mem_partsAll {v : Vocabulary} : ∀ {ops : List (Operation α)},
    checkAll v ops = .ok () → ∀ part ∈ partsAll ops, part.check v = .ok ()
  | [], _ => fun _ listed => absurd listed List.not_mem_nil
  | op :: ops, passed => by
      unfold checkAll at passed
      obtain ⟨first, others⟩ := Fault.ok_of_seq passed
      exact List.forall_mem_append.mpr
        ⟨check_of_mem_parts first, check_of_mem_partsAll others⟩

end

end Operation

/-! ## Literals -/

/-- Whether an expression is nothing but a finite number. -/
def Expr.IsLiteral (e : Expr α) : Prop := ∃ x, e = .number x ∧ Scalar.isFinite x = true

namespace Effect

/-- Whether all expressions in an effect are finite numbers. -/
def IsLiteral (e : Effect α) : Prop := ∀ x ∈ e.expressions, x.IsLiteral

variable {e : Effect α}

theorem IsLiteral.selector (h : e.IsLiteral) : ∀ x ∈ e.target.expressions, x.IsLiteral :=
  fun x listed => h x (List.mem_append_left _ (List.mem_append_left _ listed))

theorem IsLiteral.conditions (h : e.IsLiteral) : ∀ x ∈ e.conditions, x.IsLiteral :=
  fun x listed => h x (List.mem_append_left _ (List.mem_append_right _ listed))

theorem IsLiteral.operation (h : e.IsLiteral) {op : Operation α} (part : op ∈ e.parts) :
    ∀ x ∈ op.expressions, x.IsLiteral :=
  fun x listed => h x (List.mem_append_right _ (List.mem_flatMap.mpr ⟨op, part, listed⟩))

end Effect

end Grimoire
