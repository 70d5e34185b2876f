import Grimoire.Proofs.Call.Course
import Grimoire.Proofs.Effect.Parts

/-! # Where the entries of an agenda come from

Whatever is left to be done in a call of an effect is a part of that effect or of a registered one.  So
what all parts of these have in common, every operation has that is ever run.
-/

namespace Grimoire

variable {α : Type} {known : Effect α → Prop}

/-! ## Parts of known effects -/

/-- Whether an operation is a part of one of some effects. -/
def Operation.IsPartOf (known : Effect α → Prop) (op : Operation α) : Prop :=
  ∃ e, known e ∧ op ∈ e.parts

/-- Whether everything in an entry comes from some effects. -/
def Pending.StemsFrom (known : Effect α → Prop) : Pending α → Prop
  | weigh e _ | effect e _ | triggered _ e => known e
  | targets _ ops | operations _ ops | rounds _ _ ops =>
    ∀ part ∈ Operation.partsAll ops, part.IsPartOf known
  | dispatch _ op => ∀ part ∈ op.parts, part.IsPartOf known
  | chained _ e newTarget => known e ∧ ∃ id, (Operation.chain id newTarget).IsPartOf known
  | enter _ inner => inner.StemsFrom known
  | close _ => True

namespace Pending

variable {c : Cast α} {p : Pending α} {more : List (Pending α)}

theorem Leads.stemsFrom (h : p.Leads c more)
    (book : ∀ id e, c.book.get? id = some e → known e) (stems : p.StemsFrom known) :
    ∀ q ∈ more, q.StemsFrom known := by
  have own (e : Effect α) (knows : known e) : ∀ part ∈ e.parts, part.IsPartOf known :=
    fun part listed => ⟨e, knows, listed⟩
  cases h with
  | done => exact fun q listed => absurd listed List.not_mem_nil
  | effect => exact List.forall_mem_singleton.mpr stems
  | targets e | triggered _ e => exact List.forall_mem_singleton.mpr (own e stems)
  | chained _ e => exact List.forall_mem_singleton.mpr (own e stems.1)
  | @chain id e target newTarget found =>
      have known := book id e (Spellbook.found_of_require found)
      have part := stems (.chain id newTarget) (Operation.mem_parts _)
      exact List.forall_mem_singleton.mpr ⟨known, id, part⟩
  | @trigger id e target found =>
      exact List.forall_mem_singleton.mpr (book id e (Spellbook.found_of_require found))
  | accepted target condition accepted refused =>
      refine List.forall_mem_singleton.mpr fun part listed => stems part ?_
      cases refused with
      | none => exact List.mem_cons_of_mem _ listed
      | some => exact List.mem_cons_of_mem _ (List.mem_append_left _ listed)
  | refused =>
      exact List.forall_mem_singleton.mpr fun part listed =>
        stems part (List.mem_cons_of_mem _ (List.mem_append_right _ listed))
  | rounds =>
      exact List.forall_mem_singleton.mpr fun part listed =>
        stems part (List.mem_cons_of_mem _ listed)
  | round => exact List.forall_mem_cons.mpr ⟨stems, List.forall_mem_singleton.mpr stems⟩

theorem inherited_stemsFrom (book : ∀ id e, c.book.get? id = some e → known e) :
    Inherited c (StemsFrom known) where
  leads leads stems := leads.stemsFrom book stems
  targets stems := ⟨stems, stems⟩
  operations stems := List.forall_mem_append.mp stems
  enter stems := ⟨stems, trivial⟩

end Pending

/-! ## Calls -/

namespace Interpreter

def Knows (i : Interpreter α) (e e' : Effect α) : Prop := e' = e ∨ ∃ id, i.book.get? id = some e'

/-- At every moment of a call of an effect, what is left comes from it or from registered effects. -/
theorem moment_stemsFrom [Scalar α] (i : Interpreter α) (e : Effect α) (context : Context)
    (w : World α) (clock : Clock) (n : Nat) :
    ∀ p ∈ (i.moment (.execute e context) w clock n).agenda, p.StemsFrom (i.Knows e) := by
  have book (id : String) (e' : Effect α) (found : i.book.get? id = some e') : i.Knows e e' :=
    .inr ⟨id, found⟩
  refine moment_inherited (Pending.inherited_stemsFrom book) ?_ n
  have opening := i.opening_cases (.execute e context) w clock
  generalize i.opening (.execute e context) w clock = m at opening
  cases opening with
  | refused | stopped => exact fun p listed => absurd listed List.not_mem_nil
  | ready prepared =>
      cases prepared
      exact List.forall_mem_singleton.mpr (.inl rfl)

end Interpreter

end Grimoire
