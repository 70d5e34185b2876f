import Grimoire.Proofs.World.Numbering
import Grimoire.Proofs.World.Sheets

/-! # The ledger

The changes of a report are a ledger of what is seen of a world: each of them says what it found and
what it made of it.  `Replays` goes through a ledger from a view, and every move records just the
changes that lead from the view before it to the view after it.
-/

namespace Grimoire

variable {α : Type}

section

abbrev View (α : Type) := EntityId → Option (Sheet α)

variable [Quantity α]

namespace World

def view (w : World α) : View α := fun id => (w.entity? id).map Entity.sheet

end World

/-! ## Replaying -/

namespace Change

def target : Change α → EntityId
  | health target .. | maxHealth target .. | stat target .. | statusRemoved target .. => target
  | moved target .. | spawned target .. | transformed target .. | material target .. => target

/-- Whether an entity, if there is one, is as a change says that it was found. -/
def Found (seen : Option (Sheet α)) : Change α → Prop
  | health _ before _ => ∃ sheet ∈ seen, ∃ max, sheet.pool = some (before, max)
  | maxHealth _ before _ _ => ∃ sheet ∈ seen, ∃ current, sheet.pool = some (current, before)
  | stat _ name before _ _ => ∃ sheet ∈ seen, sheet.stats name = before
  | moved _ source _ => ∃ sheet ∈ seen, sheet.position = source
  | transformed _ source _ _ => ∃ sheet ∈ seen, sheet.typeName = source
  | material _ source _ => ∃ sheet ∈ seen, sheet.material = some source
  | statusRemoved .. | spawned .. => True

/-- What a change makes of an entity.  A new maximum lowers the pool to it. -/
def revise (seen : Option (Sheet α)) : Change α → Option (Sheet α)
  | health _ _ after =>
      seen.map fun sheet => { sheet with pool := sheet.pool.map fun pool => (after, pool.2) }
  | maxHealth _ _ after _ =>
      seen.map fun sheet =>
        { sheet with pool := sheet.pool.map fun pool => (Quantity.min pool.1 after, after) }
  | stat _ name _ after _ =>
      seen.map fun sheet => { sheet with stats := Function.update sheet.stats name after }
  | moved _ _ goal => seen.map fun sheet => { sheet with position := some goal }
  | transformed _ _ result _ => seen.map fun sheet => { sheet with typeName := result }
  | material _ _ result => seen.map fun sheet => { sheet with material := some result }
  | spawned _ entityType place =>
      some
        { typeName := entityType, position := some place, material := none, pool := none,
          stats := fun _ => 0 }
  | statusRemoved .. => seen

def after (view : View α) (c : Change α) : View α :=
  Function.update view c.target (c.revise (view c.target))

end Change

/-- Whether a list of changes leads from a view to another one, each change finding what it says. -/
inductive Replays : View α → List (Change α) → View α → Prop where
  | nil (view) : Replays view [] view
  | cons {view c cs last} (found : c.Found (view c.target)) (others : Replays (c.after view) cs last) :
      Replays view (c :: cs) last

namespace Replays

variable {view view' last : View α}

theorem append {cs cs' : List (Change α)} (h : Replays view cs view') (h' : Replays view' cs' last) :
    Replays view (cs ++ cs') last := by
  induction h with
  | nil => exact h'
  | cons found _ ih => exact .cons found (ih h')

end Replays

/-! ## Recording -/

namespace Execution

/-- Whether what is recorded between two states leads from the one world to the other. -/
def Records (s s' : Execution α) : Prop :=
  ∃ changes, s'.report.changes.toList = s.report.changes.toList ++ changes ∧
    Replays s.world.view changes s'.world.view

namespace Records

variable {s s₁ s₂ s₃ s' : Execution α}

theorem of_eq (view : s'.world.view = s.world.view) (changes : s'.report.changes = s.report.changes) :
    s.Records s' :=
  ⟨[], by rw [changes, List.append_nil], view ▸ .nil _⟩

theorem trans (h : s₁.Records s₂) (h' : s₂.Records s₃) : s₁.Records s₃ := by
  obtain ⟨changes, eq, replays⟩ := h
  obtain ⟨changes', eq', replays'⟩ := h'
  refine ⟨changes ++ changes', ?_, replays.append replays'⟩
  rw [eq', eq, List.append_assoc]

theorem single {c : Change α} (changes : s'.report.changes = s.report.changes.push c)
    (found : c.Found (s.world.view c.target)) (view : s'.world.view = c.after s.world.view) :
    s.Records s' := by
  refine ⟨[c], ?_, ?_⟩
  · rw [changes, Array.toList_push]
  · rw [view]
    exact .cons found (.nil _)

variable {target : EntityId} {e e' : Entity α} {c : Change α}

end Records

end Execution

/-! ## Entities after a change -/

namespace Entity

variable {target : EntityId} {e : Entity α} {h : Health α}

variable [Quantity.Neutral α]

end Entity

end

/-! ## Moves -/

variable [Scalar α]

variable [Quantity.Neutral α]

end Grimoire
