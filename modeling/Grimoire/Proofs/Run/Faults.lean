import Grimoire.Proofs.Expression.Outcomes
import Grimoire.Run.Operations

/-! # Which faults a part of a call can raise

Ceilings are the governor's: no check and no evaluation ever ends a call for one.  What a static check
refuses has faults of its own, which nothing else raises.
-/

namespace Grimoire

namespace Fault

def IsPlain (fault : Fault) : Prop := fault.isAbort = false

/-- Whether a fault says that an effect is malformed: a name that is none of the vocabulary, a shape, a
number that is written out, a list that is empty, or a period that does not fit. -/
def isStatic : Fault → Bool
  | invalidStat .. | invalidStatus .. | invalidEntityType .. | invalidMaterial .. => true
  | validation (.identifier ..) | validation (.unknownDamageType _) => true
  | validation (.shapeParameter ..) | validation (.literal ..) => true
  | validation (.emptyList _) | validation .zeroInterval | validation (.shortDuration ..) => true
  | invalidPosition (.coordinate ..) => true
  | _ => false

/-- A fault that is no ceiling and that no static check foresees, if there is a reason why those have
passed. -/
def IsUnforeseen (passed : Prop) (fault : Fault) : Prop :=
  fault.IsPlain ∧ (passed → fault.isStatic = false)

theorem IsEvaluation.isPlain {fault : Fault} (h : fault.IsEvaluation) : fault.IsPlain := by
  cases fault <;> first | rfl | exact h.elim

theorem IsEvaluation.isUnforeseen {fault : Fault} (h : fault.IsEvaluation) (passed : Prop) :
    fault.IsUnforeseen passed := by
  refine ⟨h.isPlain, fun _ => ?_⟩
  cases fault <;> first | rfl | exact h.elim

end Fault

variable {α : Type} [Scalar α]

/-! ## Checks -/

/-- Every fault of a check is one that is no ceiling. -/
structure Plain {β : Type} (x : Except Fault β) : Prop where
  fault : ∀ {fault}, x = .error fault → fault.IsPlain

namespace Plain

variable {β γ : Type}

theorem ok (x : β) : Plain (.ok x) := ⟨fun h => by cases h⟩

theorem error {fault : Fault} (h : fault.IsPlain) : Plain (.error fault : Except Fault β) :=
  ⟨fun hr => by cases hr; exact h⟩

theorem bind {x : Except Fault β} {k : β → Except Fault γ} (hx : Plain x) (hk : ∀ y, Plain (k y)) :
    Plain (x >>= k) := by
  cases x with
  | ok y => exact hk y
  | error fault => exact error (hx.fault rfl)

theorem ite {p : Prop} [Decidable p] {x y : Except Fault β} (hx : Plain x) (hy : Plain y) :
    Plain (if p then x else y) := by
  split
  · exact hx
  · exact hy

theorem forM {f : γ → Except Fault PUnit} (hf : ∀ x, Plain (f x)) (xs : List γ) :
    Plain (xs.forM f) := by
  induction xs with
  | nil => exact ok _
  | cons x xs ih => exact (hf x).bind fun _ => ih

end Plain

/-! ## Checks that pass -/

section

variable {β γ : Type}

theorem Fault.ok_of_bind {x : Except Fault β} {k : β → Except Fault γ} {z : γ}
    (h : (x >>= k) = .ok z) : ∃ y, x = .ok y ∧ k y = .ok z := by
  cases x with
  | ok y => exact ⟨y, rfl, h⟩
  | error fault => cases h

theorem Fault.ok_of_seq {x : Except Fault Unit} {y : Except Fault γ} {z : γ}
    (h : (x >>= fun _ => y) = .ok z) : x = .ok () ∧ y = .ok z := by
  obtain ⟨_, before, after⟩ := ok_of_bind h
  exact ⟨before, after⟩

theorem Fault.ok_of_forM {f : γ → Except Fault Unit} {xs : List γ} (h : xs.forM f = .ok ()) :
    ∀ x ∈ xs, f x = .ok () := by
  induction xs with
  | nil => exact fun x hx => absurd hx List.not_mem_nil
  | cons x xs ih =>
      obtain ⟨first, rest⟩ := ok_of_seq h
      exact List.forall_mem_cons.mpr ⟨first, ih rest⟩

end

namespace Vocabulary

theorem plain_checkName (refuse : String → Fault) (unknown : String) (known : Bool) (name : String)
    (h : ∀ reason, (refuse reason).IsPlain) :
    Plain (checkName refuse unknown known name) := by
  unfold checkName
  split
  · exact .error (h _)
  · exact .ite (.ok _) (.error (h _))

theorem plain_checkIdentifier (what name : String) : Plain (checkIdentifier what name) := by
  unfold checkIdentifier
  split
  · exact .error rfl
  · exact .ok _

theorem plain_checkDamageType (v : Vocabulary) (name : String) : Plain (v.checkDamageType name) := by
  unfold checkDamageType
  split
  · next h => exact .error ((plain_checkIdentifier ..).fault h)
  · exact .ite (.ok _) (.error rfl)

theorem plain_checkStat (name : String) : Plain (checkStat name) :=
  plain_checkName _ _ _ _ fun _ => rfl

theorem plain_checkStatus (v : Vocabulary) (name : String) : Plain (v.checkStatus name) :=
  plain_checkName _ _ _ _ fun _ => rfl

theorem plain_checkEntityType (v : Vocabulary) (name : String) : Plain (v.checkEntityType name) :=
  plain_checkName _ _ _ _ fun _ => rfl

theorem plain_checkItem (v : Vocabulary) (name : String) : Plain (v.checkItem name) :=
  plain_checkName _ _ _ _ fun _ => rfl

theorem plain_checkMaterial (v : Vocabulary) (name : String) : Plain (v.checkMaterial name) :=
  plain_checkName _ _ _ _ fun _ => rfl

end Vocabulary

open Vocabulary

namespace Shape

theorem plain_check (s : Shape α) : Plain s.check := by
  unfold check
  split
  · exact .ok _
  · exact .error rfl

end Shape

namespace Selector

theorem plain_check (s : Selector α) : Plain s.check := by
  refine s.shape.plain_check.bind fun _ => ?_
  cases s.filter with
  | none => exact .ok _
  | some f =>
      exact (Plain.forM (plain_checkIdentifier _) _).bind fun _ =>
        (Plain.forM (plain_checkIdentifier _) _).bind fun _ =>
          Plain.forM (plain_checkIdentifier _) _

theorem raises_admits (s : Selector α) (w : World α) (aim : Aim) (id : EntityId) :
    (s.admits w aim id).Raises Fault.IsEvaluation := by
  unfold admits
  split
  · exact .pure _
  · next e _ =>
      have passes (f : Filter α) : (f.passes w aim.caster id e).Raises Fault.IsEvaluation := by
        unfold Filter.passes
        split
        · split
          · exact .pure _
          · exact Expr.raises_evalBool ..
        · exact .pure _
      cases s.filter with
      | none => exact (Draw.Raises.pure _).bind fun _ => .pure _
      | some f => exact (passes f).bind fun _ => .pure _

theorem raises_choose (s : Selector α) (w : World α) (aim : Aim) (ids : List EntityId) :
    (s.choose w aim ids).Raises Fault.IsEvaluation := by
  induction ids with
  | nil => exact .pure _
  | cons id ids ih => exact (s.raises_admits w aim id).bind fun _ => ih.bind fun _ => .pure _

/-- The size of a shape is checked when targets are chosen, and nothing else can go wrong but an
evaluation. -/
theorem raises_resolve (s : Selector α) (w : World α) (aim : Aim) (lineWidth : α) :
    (s.resolve w aim lineWidth).Raises (Fault.IsUnforeseen (s.shape.check = .ok ())) := by
  unfold resolve
  cases h : s.shape.check with
  | error fault => exact .throw ⟨s.shape.plain_check.fault h, fun passed => by cases passed⟩
  | ok =>
      refine ((s.raises_choose ..).mono fun _ raised => ?_).bind fun _ => .pure _
      exact raised.isUnforeseen _

end Selector

namespace Expr

theorem plain_checkParameter (operation parameter : String) (d : Domain) (e : Expr α) :
    Plain (e.checkParameter operation parameter d) := by
  unfold checkParameter
  split
  · exact .ok _
  · exact .ite (.ok _) (.error rfl)

theorem plain_checkOptional (operation parameter : String) (d : Domain) (e : Option (Expr α)) :
    Plain (checkOptional operation parameter d e) := by
  cases e with
  | none => exact .ok _
  | some e => exact e.plain_checkParameter ..

theorem plain_checkCoordinate (operation : String) (e : Expr α) :
    Plain (e.checkCoordinate operation) := by
  unfold checkCoordinate
  split
  · exact .ok _
  · exact .ite (.ok _) (.error rfl)

end Expr

namespace Coordinates

theorem plain_check (operation : String) (p : Coordinates α) : Plain (p.check operation) :=
  (p.x.plain_checkCoordinate _).bind fun _ => p.y.plain_checkCoordinate _

theorem plain_checkOptional (operation : String) (p : Option (Coordinates α)) :
    Plain (checkOptional operation p) := by
  cases p with
  | none => exact .ok _
  | some p => exact p.plain_check _

end Coordinates

theorem Action.plain_check (v : Vocabulary) (action : Action α) : Plain (action.check v) := by
  cases action with
  | dealDamage => exact (v.plain_checkDamageType _).bind fun _ => Expr.plain_checkParameter ..
  | heal => exact Expr.plain_checkParameter ..
  | applyStatus =>
      exact (v.plain_checkStatus _).bind fun _ => (Expr.plain_checkParameter ..).bind fun _ =>
        Expr.plain_checkOptional ..
  | removeStatus _ count =>
      refine (v.plain_checkStatus _).bind fun _ => ?_
      cases count with
      | all => exact .ok _
      | count e => exact e.plain_checkParameter ..
  | modifyStat =>
      exact (plain_checkStat _).bind fun _ => (Expr.plain_checkParameter ..).bind fun _ =>
        Expr.plain_checkOptional ..
  | setStat => exact (plain_checkStat _).bind fun _ => Expr.plain_checkParameter ..
  | teleport destination => exact destination.plain_check _
  | push => exact (Coordinates.plain_checkOptional ..).bind fun _ => Expr.plain_checkParameter ..
  | pull => exact (Coordinates.plain_checkOptional ..).bind fun _ => Expr.plain_checkParameter ..
  | spawnEntity =>
      exact (v.plain_checkEntityType _).bind fun _ => (Expr.plain_checkParameter ..).bind fun _ =>
        Coordinates.plain_checkOptional ..
  | spawnItem =>
      exact (v.plain_checkItem _).bind fun _ => (Expr.plain_checkParameter ..).bind fun _ =>
        Coordinates.plain_checkOptional ..
  | transformEntity => exact (v.plain_checkEntityType _).bind fun _ => Expr.plain_checkOptional ..
  | transformMaterial => exact (v.plain_checkMaterial _).bind fun _ => v.plain_checkMaterial _
  | emitEvent =>
      exact (plain_checkIdentifier ..).bind fun _ => Plain.forM (plain_checkIdentifier _) _

namespace Operation

omit [Scalar α] in
theorem plain_checkNonempty (list : String) (ops : List (Operation α)) :
    Plain (checkNonempty list ops) := .ite (.error rfl) (.ok _)

mutual

theorem plain_check (v : Vocabulary) : ∀ op : Operation α, Plain (op.check v)
  | act action => by
      unfold check
      exact action.plain_check v
  | chain _ newTarget => by
      unfold check
      exact (plain_checkIdentifier ..).bind fun _ => newTarget.plain_check
  | trigger _ => by
      unfold check
      exact plain_checkIdentifier ..
  | conditional _ accepted none => by
      unfold check
      exact (plain_checkNonempty ..).bind fun _ => (plain_checkAll v accepted).bind fun _ => .ok _
  | conditional _ accepted (some refused) => by
      unfold check
      exact (plain_checkNonempty ..).bind fun _ => (plain_checkAll v accepted).bind fun _ =>
        (plain_checkNonempty ..).bind fun _ => plain_checkAll v refused
  | iterate _ body => by
      unfold check
      exact (Expr.plain_checkParameter ..).bind fun _ => (plain_checkNonempty ..).bind fun _ =>
        plain_checkAll v body
  | delay _ body => by
      unfold check
      exact (Expr.plain_checkParameter ..).bind fun _ => (plain_checkNonempty ..).bind fun _ =>
        plain_checkAll v body

theorem plain_checkAll (v : Vocabulary) : ∀ ops : List (Operation α), Plain (checkAll v ops)
  | [] => .ok _
  | op :: ops => by
      unfold checkAll
      exact (plain_check v op).bind fun _ => plain_checkAll v ops

end

end Operation

theorem Timing.plain_check (t : Timing) : Plain t.check := by
  cases t with
  | periodic => exact .ite (.error rfl) (.ite (.error rfl) (.ok _))
  | _ => exact .ok _

theorem Effect.plain_check (v : Vocabulary) (e : Effect α) : Plain (e.check v) := by
  have rest : Plain (do
      e.target.check
      e.timing.check
      Operation.checkNonempty "operations" e.operations
      Operation.checkAll v e.operations) :=
    e.target.plain_check.bind fun _ => e.timing.plain_check.bind fun _ =>
      (Operation.plain_checkNonempty ..).bind fun _ => Operation.plain_checkAll v e.operations
  unfold check
  cases e.id with
  | none => exact rest
  | some id => exact (plain_checkIdentifier ..).bind fun _ => rest

omit [Scalar α] in
/-- An effect that is named either is registered, or it is unknown. -/
theorem Spellbook.eq_unknown_of_require {b : Spellbook α} {id : String} {fault : Fault}
    (h : b.require id = .error fault) : fault = .unknownEffect id := by
  unfold require at h
  split at h
  · split at h
    · cases h
    · cases h
      rfl
  · cases h
    rfl

omit [Scalar α] in
theorem Spellbook.plain_require (b : Spellbook α) (id : String) : Plain (b.require id) :=
  ⟨fun h => by rw [eq_unknown_of_require h]; rfl⟩

end Grimoire
