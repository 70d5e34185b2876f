import Grimoire.Proofs.Number.Neutral
import Grimoire.World.Basic

/-! # What can be seen of an entity

A sheet has what a change in a report can be about: the type of an entity, where it is, what it is
made of, its pool and its stats.  A write to one slot changes one line of the sheet.
-/

namespace Grimoire

/-- What can be seen of an entity. -/
structure Sheet (α : Type) where
  typeName : String
  position : Option (Position α)
  material : Option String
  /-- The pool and its maximum. -/
  pool : Option (α × α)
  /-- The effective value of every stat. -/
  stats : String → α

variable {α β : Type}

variable [Quantity α]

namespace Entity

def sheet (e : Entity α) : Sheet α where
  typeName := e.typeName
  position := e.get? .position
  material := e.get? .material
  pool := (e.get? .health).map fun h => (h.current, h.max)
  stats stat := ((e.get? .stats).map (·.effective stat)).getD 0

omit [Quantity α] in
@[simp] theorem typeName_put (e : Entity α) (slot : Slot α β) (x : β) :
    (e.put slot x).typeName = e.typeName := rfl

theorem sheet_put_stats (e : Entity α) (block : StatBlock α) :
    (e.put .stats block).sheet = { e.sheet with stats := block.effective } := by
  have p := e.get?_put_of_ne .stats .position block (by simp)
  have m := e.get?_put_of_ne .stats .material block (by simp)
  have h := e.get?_put_of_ne .stats .health block (by simp)
  simp only [sheet, typeName_put, get?_put, p, m, h, Option.map_some, Option.getD_some]

theorem stats_sheet [Quantity.Neutral α] (e : Entity α) : e.sheet.stats = e.statBlock.effective := by
  funext stat
  simp only [sheet, statBlock]
  cases e.get? .stats with
  | none =>
      have base : ({} : StatBlock α).baseOf stat = 0 := by
        simp [StatBlock.baseOf]
      have effective : ({} : StatBlock α).effective stat =
          ({} : StatBlock α).baseOf stat + Quantity.sum [] := rfl
      rw [Option.map_none, Option.getD_none, Option.getD_none, effective, Quantity.add_sum_nil, base]
  | some block => rfl

end Entity

/-! ## Stats after a change -/

namespace StatBlock

theorem effective_change_of_ne (s : StatBlock α) {stat other : String} (amount : α)
    (expiresAt : Option Nat) (h : stat ≠ other) :
    (s.change stat amount expiresAt).effective other = s.effective other := by
  cases expiresAt with
  | none =>
      simp [change, addBase, effective, baseOf, Std.ExtTreeMap.getD_insert, h]
  | some expiry =>
      simp [change, addModifier, effective, baseOf, List.filter_append, h]

theorem effective_setBase_of_ne (s : StatBlock α) {stat other : String} (value : α)
    (h : stat ≠ other) : (s.setBase stat value).effective other = s.effective other := by
  have kept : (s.modifiers.filter fun m => m.stat != stat).filter (fun m => m.stat == other) =
      s.modifiers.filter fun m => m.stat == other := by
    rw [List.filter_filter]
    refine List.filter_congr fun m _ => ?_
    by_cases same : m.stat = other
    · subst same
      simp [Ne.symm h]
    · simp [same]
  simp only [setBase, effective, baseOf, kept]
  simp [Std.ExtTreeMap.getD_insert, h]

theorem effective_setBase [Quantity.Neutral α] (s : StatBlock α) (stat : String) (value : α) :
    (s.setBase stat value).effective stat = value := by
  have dropped : (s.modifiers.filter fun m => m.stat != stat).filter (fun m => m.stat == stat) =
      [] := by
    rw [List.filter_filter, List.filter_eq_nil_iff]
    simp
  simp only [setBase, effective, baseOf, dropped, List.map_nil, Quantity.add_sum_nil]
  simp

end StatBlock

end Grimoire
