import Grimoire.Proofs.Effect.Parts
import Grimoire.Proofs.Expression.Document

/-! # Selectors and their documents

A selector is read back from what it is written as.  The members of its shape stand among its own, so
what there is to see is that neither are mistaken for the others.
-/

namespace Grimoire

open Json Record

theorem maxCount_lt : maxCount < twoTo 64 := by decide

theorem Json.ofNat_ne_null (n : Nat) : Json.ofNat n ≠ .null := nofun

theorem Expr.spells_option {o : Option (Expr Float)} (h : ∀ x ∈ o, x.IsKept) :
    Spells (asOption Expr.ofJson) (.ofOption Expr.toJson o) o :=
  .option (fun x held => spells (h x held)) fun x held => toJson_ne_null (h x held)

theorem Json.Spells.texts (xs : List String) : Spells (asList asText) (.ofList .text xs) xs :=
  .list fun s _ => .text s

namespace Shape

theorem once_own (s : Shape Float) (f m a b : Json) :
    let members := s.toMembers ++
      [("filter", f), ("maxTargets", m), ("excludeSelf", a), ("excludePrevious", b)]
    Once ["filter"] members f ∧ Once ["maxTargets", "count"] members m ∧
      Once ["excludeSelf"] members a ∧ Once ["excludePrevious"] members b := by
  cases s <;> exact ⟨⟨_, rfl⟩, ⟨_, rfl⟩, ⟨_, rfl⟩, ⟨_, rfl⟩⟩

/-- A shape whose numbers read back is found among the members of a selector. -/
theorem spells {s : Shape Float} (back : ∀ p ∈ s.parameters, ReadsBack p.2) (f m a b : Json) :
    (∀ m ∈ s.toMembers, m.2.Legible) ∧
      (ofMembers (s.toMembers ++ [("filter", f), ("maxTargets", m), ("excludeSelf", a),
        ("excludePrevious", b)])).Finds s := by
  have found {members : List (String × Json)} {value : Json} {kind : Kind Json (Shape Float)}
      {s : Shape Float} (once : Once ["type"] members value)
      (kinds : Kind.find? .nameOrPlace kinds value = some kind)
      (reads : (kind.read members).Finds s) : (ofMembers members).Finds s := by
    have shape : Kind.ofMembers .nameOrPlace Shape.kinds "type" id members = .ok s :=
      Kind.ofMembers_eq_ok id once kinds reads
    rw [ofMembers, shape]
    rfl
  have number (name : String) {x : Float} (listed : (name, x) ∈ s.parameters) :
      Spells asFloat (.ofFloat x) x := .float (back (name, x) listed)
  cases s with
  | self | single | all => exact ⟨by simp [toMembers], found ⟨_, rfl⟩ rfl rfl⟩
  | area radius =>
      have radius : Spells asFloat (.ofFloat radius) radius :=
        number "radius" (by simp [parameters])
      exact ⟨by simp [toMembers, radius.legible],
        found ⟨_, rfl⟩ rfl ((required_finds ⟨_, rfl⟩ radius.reads).map area)⟩
  | cone angle length =>
      have angle : Spells asFloat (.ofFloat angle) angle := number "angle" (by simp [parameters])
      have length : Spells asFloat (.ofFloat length) length :=
        number "length" (by simp [parameters])
      exact ⟨by simp [toMembers, angle.legible, length.legible],
        found ⟨_, rfl⟩ rfl (((required_finds ⟨_, rfl⟩ angle.reads).map cone).seq
          (required_finds ⟨_, rfl⟩ length.reads))⟩
  | line length width =>
      have length : Spells asFloat (.ofFloat length) length :=
        number "length" (by cases width <;> simp [parameters])
      have width : Spells (asOption asFloat) (.ofOption .ofFloat width) width := by
        have spelled : ∀ x ∈ width, Spells asFloat (.ofFloat x) x := by
          rintro x ⟨⟩
          exact number "width" (by simp [parameters])
        refine .option spelled fun x held shape => ?_
        have reads := (spelled x held).reads
        rw [shape] at reads
        cases reads
      exact ⟨by simp [toMembers, length.legible, width.legible],
        found ⟨_, rfl⟩ rfl (((required_finds ⟨_, rfl⟩ length.reads).map line).seq
          (optional_finds ⟨_, rfl⟩ width.reads))⟩

end Shape

/-! ## Reading what was written -/

namespace Filter

variable {f : Filter Float}

theorem spells (h : ∀ x ∈ f.predicate, x.IsKept) : Spells ofJson f.toJson f := by
  have types := Spells.texts f.entityTypes
  have factions := Spells.texts f.factions
  have components := Spells.texts f.components
  have predicate := Expr.spells_option h
  refine .ofRecord (by
    simp [types.legible, factions.legible, components.legible, predicate.legible]) ?_
  exact ((((optional_finds ⟨_, rfl⟩ types.reads).map mk).seq
    (optional_finds ⟨_, rfl⟩ factions.reads)).seq
    (optional_finds ⟨_, rfl⟩ components.reads)).seq
    (optional_finds ⟨_, rfl⟩ predicate.reads)

end Filter

namespace Selector

/-- Whether nothing in a selector but its expressions is lost when it is written. -/
structure IsKept (s : Selector Float) : Prop where
  count : ∀ n ∈ s.maxTargets, n ≤ maxCount
  back : ∀ p ∈ s.shape.parameters, ReadsBack p.2

theorem refuse_isFlawed_finds {members : List (String × Json)}
    (legible : ∀ m ∈ members, m.2.Legible) : (refuse isFlawed members).Finds () :=
  refuse_finds fun m listed => by simp [isFlawed, (legible m listed).isFlawless]

theorem spells {s : Selector Float} (h : s.IsKept) (kept : ∀ x ∈ s.expressions, x.IsKept) :
    Spells ofJson s.toJson s := by
  have filter : Spells (asOption Filter.ofJson) (.ofOption Filter.toJson s.filter) s.filter := by
    refine .option (fun f held => Filter.spells fun x listed => kept x ?_) fun f _ => nofun
    rw [expressions, held]
    exact Option.mem_toList.mpr listed
  have count : Spells (asOption (asNat maxCount)) (.ofOption .ofNat s.maxTargets) s.maxTargets :=
    .option (fun n held => .nat (h.count n held) maxCount_lt) fun n _ => ofNat_ne_null n
  obtain ⟨shape, found⟩ := Shape.spells h.back (.ofOption Filter.toJson s.filter)
    (.ofOption .ofNat s.maxTargets) (.bool s.excludeSelf) (.bool s.excludePrevious)
  have legible : ∀ m ∈ s.shape.toMembers ++
      [("filter", .ofOption Filter.toJson s.filter), ("maxTargets", .ofOption .ofNat s.maxTargets),
        ("excludeSelf", .bool s.excludeSelf), ("excludePrevious", .bool s.excludePrevious)],
      m.2.Legible := by
    refine List.forall_mem_append.mpr ⟨shape, ?_⟩
    simp [filter.legible, count.legible]
  obtain ⟨atFilter, atCount, atSelf, atPrevious⟩ := s.shape.once_own _ _ _ _
  exact .ofMembers legible <| ((((found.seqLeft (refuse_isFlawed_finds legible)).map mk).seq
    (optional_finds atFilter filter.reads)).seq (member_finds atCount count.reads)).seq
    (optional_finds atSelf (Spells.bool _).reads) |>.seq
    (optional_finds atPrevious (Spells.bool _).reads)

end Selector

/-! ## What is read -/

theorem Filter.ofJson_yields : Json.Yields ofJson fun f => ∀ x ∈ f.predicate, x.IsResolved := by
  refine .ofRecord fun members f found => ?_
  simp only [Placed.finds_seq, Placed.finds_map] at found
  obtain ⟨_, ⟨_, ⟨_, ⟨_, _, rfl⟩, _, _, rfl⟩, _, _, rfl⟩, predicate, found, rfl⟩ := found
  exact optional_yields (fun m _ => Expr.ofJson_yields.option m.2) (by simp) predicate found

namespace Selector

/-- Whether the most targets of a selector are a count, and its paths read what their texts stand
for. -/
structure IsTyped {α : Type} (s : Selector α) : Prop where
  count : ∀ n ∈ s.maxTargets, n ≤ maxCount
  resolved : ∀ x ∈ s.expressions, x.IsResolved

theorem ofJson_yields : Json.Yields ofJson IsTyped := by
  refine .ofMembers fun members s found => ?_
  simp only [Placed.finds_seq, Placed.finds_map] at found
  obtain ⟨_, ⟨_, ⟨_, ⟨_, ⟨_, _, rfl⟩, filter, first, rfl⟩, count, second, rfl⟩, _, _, rfl⟩, _, _, rfl⟩ :=
    found
  constructor
  · exact member_yields (fun m _ => (Json.Yields.nat maxCount).option m.2)
      (fun _ absent => Placed.finds_found.mp absent ▸ by simp) count second
  · intro x listed
    cases filter with
    | none => cases listed
    | some f =>
        have held := optional_yields (fun m _ => Filter.ofJson_yields.option m.2) (by simp) _ first f rfl
        exact held x (Option.mem_toList.mp listed)

end Selector

end Grimoire
