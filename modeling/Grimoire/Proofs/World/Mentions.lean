import Grimoire.Settings.Vocabulary
import Grimoire.World.Basic

/-! # The names in an entity

An entity mentions names: its type, the stats and statuses it keeps, what it was before it was turned
into something else, its item and its material.  Writing a slot adds no names but those of what is put
there.
-/

namespace Grimoire

variable {α β : Type}

/-- What a name is used for. -/
inductive NameUse where
  | stat
  | status
  | entityType
  | item
  | material
  | eventType
  | payloadKey
  deriving DecidableEq, Repr

/-! ## Components -/

/-- What a component mentions, whatever the name it is kept under. -/
inductive Component.Mentions : Component α → NameUse → String → Prop where
  | base {s : StatBlock α} {stat : String} (kept : stat ∈ s.base) : Mentions (.stats s) .stat stat
  | modifier {s : StatBlock α} {m : StatModifier α} (kept : m ∈ s.modifiers) :
      Mentions (.stats s) .stat m.stat
  | status {s : Statuses} {status : String} (kept : status ∈ s.entries) :
      Mentions (.statuses s) .status status
  | former (t : Transformation) : Mentions (.transformed t) .entityType t.formerType
  | item (stack : ItemStack) : Mentions (.item stack) .item stack.itemId
  | material (name : String) : Mentions (.material name) .material name

inductive Entity.Mentions (e : Entity α) : NameUse → String → Prop where
  | typeName : Mentions e .entityType e.typeName
  | component {key : String} {c : Component α} {use name} (kept : e.components[key]? = some c)
      (mentions : c.Mentions use name) : Mentions e use name

/-! ## Slots -/

/-- Whether a slot holds nothing but what can be put there. -/
def Slot.Exact (slot : Slot α β) : Prop := ∀ c x, slot.unwrap? c = some x → c = slot.wrap x

namespace Slot

theorem exact_health : Exact (health : Slot α (Health α)) := by
  intro c x held
  cases c <;> cases held
  rfl

theorem exact_stats : Exact (stats : Slot α (StatBlock α)) := by
  intro c x held
  cases c <;> cases held
  rfl

theorem exact_statuses : Exact (statuses : Slot α Statuses) := by
  intro c x held
  cases c <;> cases held
  rfl

theorem exact_transformed : Exact (transformed : Slot α Transformation) := by
  intro c x held
  cases c <;> cases held
  rfl

end Slot

namespace Entity

variable {e : Entity α} {slot : Slot α β} {x : β} {use : NameUse} {name : String}

theorem component_of_get? (exact : slot.Exact) (held : e.get? slot = some x) :
    e.components[slot.name]? = some (slot.wrap x) := by
  unfold get? at held
  obtain ⟨c, kept, unwrapped⟩ := Option.bind_eq_some_iff.mp held
  rw [kept, exact c x unwrapped]

/-- What is kept after a slot is written is what was put there, or was kept before. -/
theorem component_put {key : String} {c : Component α}
    (kept : (e.put slot x).components[key]? = some c) :
    c = slot.wrap x ∨ e.components[key]? = some c := by
  unfold put at kept
  rw [Std.ExtTreeMap.getElem?_insert] at kept
  by_cases same : compare slot.name key = .eq
  · rw [if_pos same] at kept
    cases kept
    exact .inl rfl
  · rw [if_neg same] at kept
    exact .inr kept

/-! ## What is mentioned -/

theorem mentions_of_get? (exact : slot.Exact) (held : e.get? slot = some x)
    (mentions : (slot.wrap x).Mentions use name) : e.Mentions use name :=
  .component (component_of_get? exact held) mentions

theorem mentions_put (h : (e.put slot x).Mentions use name) :
    (slot.wrap x).Mentions use name ∨ e.Mentions use name := by
  cases h with
  | typeName => exact .inr .typeName
  | component kept mentions =>
      rcases component_put kept with rfl | before
      · exact .inl mentions
      · exact .inr (.component before mentions)

theorem mentions_statusTable {status : String} (kept : status ∈ e.statusTable.entries) :
    e.Mentions .status status := by
  unfold statusTable at kept
  cases held : e.get? .statuses with
  | none => simp [held] at kept
  | some table =>
      rw [held] at kept
      exact mentions_of_get? Slot.exact_statuses held (.status kept)

theorem mentions_statBlock (mentions : (Component.stats e.statBlock).Mentions use name) :
    e.Mentions use name := by
  unfold statBlock at mentions
  cases held : e.get? .stats with
  | none =>
      rw [held] at mentions
      cases mentions with
      | base kept => simp at kept
      | modifier kept => simp at kept
  | some block =>
      rw [held] at mentions
      exact mentions_of_get? Slot.exact_stats held mentions

theorem mentions_transform {typeName : String} {expiresAt : Option Nat}
    (h : (e.transform typeName expiresAt).Mentions use name) :
    (use = .entityType ∧ name = typeName) ∨ e.Mentions use name := by
  rcases mentions_put h with new | ⟨⟩ | ⟨kept, mentions⟩
  · cases new
    right
    cases held : e.get? .transformed with
    | none => exact .typeName
    | some t => exact mentions_of_get? Slot.exact_transformed held (.former t)
  · exact .inl ⟨rfl, rfl⟩
  · exact .inr (.component kept mentions)

end Entity

def World.Carries (w : World α) (id : EntityId) : Prop := ∃ stack, w.get? id .item = some stack

/-! ## Tables -/

theorem NameMap.eq_or_mem_of_insert {β : Type} {table : NameMap β} {key name : String} {x : β}
    (kept : name ∈ table.insert key x) : name = key ∨ name ∈ table := by
  rw [Std.ExtTreeMap.mem_insert] at kept
  exact kept.imp_left fun same => (Std.LawfulEqCmp.eq_of_compare same).symm

theorem Statuses.mem_apply {s : Statuses} {status name : String} {count : Nat}
    {expiresAt : Option Nat} (kept : name ∈ (s.apply status count expiresAt).entries) :
    name = status ∨ name ∈ s.entries :=
  NameMap.eq_or_mem_of_insert kept

theorem Statuses.mem_remove {s : Statuses} {status name : String} {count : Option Nat}
    (kept : name ∈ (s.remove status count).entries) : name = status ∨ name ∈ s.entries := by
  by_cases same : status = name
  · exact .inl same.symm
  · right
    have entry := s.get?_remove_of_ne count same
    unfold get? at entry
    rw [Std.ExtTreeMap.mem_iff_isSome_getElem?] at kept ⊢
    rwa [entry] at kept

namespace StatBlock

theorem mentions_setBase {s : StatBlock α} {stat name : String} {value : α} {use : NameUse}
    (h : (Component.stats (s.setBase stat value)).Mentions use name) :
    (use = .stat ∧ name = stat) ∨ (Component.stats s).Mentions use name := by
  cases h with
  | base kept =>
      rcases NameMap.eq_or_mem_of_insert kept with same | kept
      · exact .inl ⟨rfl, same⟩
      · exact .inr (.base kept)
  | modifier kept => exact .inr (.modifier ((List.mem_filter.mp kept).1))

theorem mentions_change [Quantity α] {s : StatBlock α} {stat name : String} {amount : α}
    {expiresAt : Option Nat} {use : NameUse}
    (h : (Component.stats (s.change stat amount expiresAt)).Mentions use name) :
    (use = .stat ∧ name = stat) ∨ (Component.stats s).Mentions use name := by
  cases expiresAt with
  | none =>
      cases h with
      | base kept =>
          rcases NameMap.eq_or_mem_of_insert kept with same | kept
          · exact .inl ⟨rfl, same⟩
          · exact .inr (.base kept)
      | modifier kept => exact .inr (.modifier kept)
  | some expiry =>
      cases h with
      | base kept => exact .inr (.base kept)
      | modifier kept =>
          rcases List.mem_append.mp kept with kept | new
          · exact .inr (.modifier kept)
          · rw [List.mem_singleton] at new
            subst new
            exact .inl ⟨rfl, rfl⟩

end StatBlock

end Grimoire
