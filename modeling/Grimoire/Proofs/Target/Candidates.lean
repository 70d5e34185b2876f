import Grimoire.Proofs.Number.Contagion
import Grimoire.Proofs.World.Numbering
import Grimoire.Target.Resolve

/-! # Whom a shape is about

A shape says who is in it, and in which order: the nearest to the origin first, and of those that are as
near the one with the lowest number.  The candidates are sorted by their distances alone, so the second
part rests on the order that the world lists its entities in, which sorting keeps where it may.

Sorting relies on distances that can be compared.  What is not a number is no distance of a candidate,
since no test of a shape lets it pass.
-/

namespace Grimoire

open Quantity (isNaN)

variable {α β : Type}

/-! ## Sorting by distance -/

theorem not_sublist_swap {a b : β} {l : List β} (nodup : l.Nodup) (first : [a, b].Sublist l) :
    ¬ [b, a].Sublist l := by
  induction l with
  | nil => cases first
  | cons x l ih =>
      obtain ⟨new, rest⟩ := List.nodup_cons.mp nodup
      intro second
      cases first with
      | cons _ first =>
          cases second with
          | cons _ second => exact ih rest first second
          | cons_cons _ second => exact new (first.subset (by simp))
      | cons_cons _ first =>
          cases second with
          | cons _ second => exact new (second.subset (by simp))
          | cons_cons _ second => exact new (first.subset (by simp))

theorem sublist_of_ascending {key : β → Nat} {a b : β} {l : List β}
    (ascending : l.Pairwise fun x y => key x < key y) (ha : a ∈ l) (hb : b ∈ l) (less : key a < key b) :
    [a, b].Sublist l := by
  have : Std.Antisymm fun x y : β => key x < key y :=
    ⟨fun _ _ h h' => absurd (Nat.lt_trans h h') (Nat.lt_irrefl _)⟩
  have apart : a ≠ b := by
    rintro rfl
    exact Nat.lt_irrefl _ less
  refine List.sublist_of_subperm_of_pairwise (r := fun x y => key x < key y) ?_ ?_ ascending
  · exact List.subperm_of_subset (by simpa using apart) (by simp [ha, hb])
  · exact List.pairwise_pair.mpr less

abbrev Hit (α : Type) := α × EntityId

namespace Hit

variable [Quantity α]

def le (a b : Hit α) : Bool := decide (a.1 ≤ b.1)

/-- Whether a hit comes before another one: it is nearer, or as near and has the lower number. -/
def Before (a b : Hit α) : Prop := a.1 < b.1 ∨ ¬ b.1 < a.1 ∧ a.2 < b.2

/-- The same comparison, with everything that is no number at the end. -/
def leLast (a b : Hit α) : Bool := isNaN b.1 || le a b

theorem mergeSort_eq {hits : List (Hit α)} (numbers : ∀ a ∈ hits, isNaN a.1 = false) :
    hits.mergeSort le = hits.mergeSort leLast := by
  have same : ∀ a ∈ hits, ∀ b ∈ hits, le a b = leLast (id a) (id b) := by
    intro a _ b listed
    simp only [leLast, id, numbers b listed, Bool.false_or]
  simpa only [List.map_id] using List.map_mergeSort same

variable [Quantity.Rounded α]

theorem Before.asymm {a b : Hit α} (h : Before a b) : ¬ Before b a := by
  rintro (less | ⟨least, less⟩)
  · rcases h with less' | ⟨least', -⟩
    · exact Quantity.Ordered.not_lt_of_le (Quantity.Ordered.le_of_lt less) less'
    · exact least' less
  · rcases h with less' | ⟨-, less'⟩
    · exact least less'
    · exact Nat.lt_asymm less less'

theorem leLast_trans (a b c : Hit α) (h : leLast a b = true) (h' : leLast b c = true) :
    leLast a c = true := by
  simp only [leLast, le, Bool.or_eq_true, decide_eq_true_eq] at h h' ⊢
  rcases h' with last | farther
  · exact .inl last
  · have number := (Quantity.Rounded.isNaN_of_le farther).1
    have nearer : a.1 ≤ b.1 := h.resolve_left (by simp [number])
    exact .inr (Quantity.Rounded.le_trans nearer farther)

theorem leLast_total (a b : Hit α) : (leLast a b || leLast b a) = true := by
  simp only [leLast, le, Bool.or_eq_true, decide_eq_true_eq]
  cases first : isNaN a.1 with
  | true => exact .inr (.inl rfl)
  | false =>
      cases second : isNaN b.1 with
      | true => exact .inl (.inl rfl)
      | false =>
          by_cases less : b.1 < a.1
          · exact .inr (.inr (Quantity.Ordered.le_of_lt less))
          · exact .inl (.inr (Quantity.Ordered.le_of_not_lt first second less))

/-- Hits that are listed by their numbers are sorted by distance, and among those that are as near by
their numbers. -/
theorem pairwise_mergeSort {hits : List (Hit α)} (numbers : ∀ a ∈ hits, isNaN a.1 = false)
    (ascending : hits.Pairwise (·.2 < ·.2)) : (hits.mergeSort le).Pairwise Before := by
  have sorted : (hits.mergeSort le).Pairwise fun a b => leLast a b = true := by
    rw [mergeSort_eq numbers]
    exact List.pairwise_mergeSort leLast_trans leLast_total hits
  have numbered : (hits.mergeSort le).Pairwise fun a b => a.2 ≠ b.2 :=
    ((List.mergeSort_perm hits le).pairwise_iff Ne.symm).mpr (ascending.imp Nat.ne_of_lt)
  have nodup : (hits.mergeSort le).Nodup := by
    refine numbered.imp fun {a b} apart same => ?_
    exact apart (congrArg Prod.snd same)
  refine List.pairwise_iff_forall_sublist.mpr fun {a b} first => ?_
  have ha : a ∈ hits := List.mem_mergeSort.mp (first.subset (by simp))
  have hb : b ∈ hits := List.mem_mergeSort.mp (first.subset (by simp))
  have near : a.1 ≤ b.1 := by
    have last := List.pairwise_iff_forall_sublist.mp sorted first
    simpa only [leLast, le, numbers b hb, Bool.false_or, decide_eq_true_eq] using last
  by_cases nearer : a.1 < b.1
  · exact .inl nearer
  · refine .inr ⟨Quantity.Ordered.not_lt_of_le near, ?_⟩
    by_contra late
    have apart : a.2 ≠ b.2 := List.pairwise_iff_forall_sublist.mp numbered first
    have less : b.2 < a.2 := Nat.lt_of_le_of_ne (Nat.le_of_not_lt late) apart.symm
    have listed : [b, a].Sublist hits := sublist_of_ascending ascending hb ha less
    have tied : leLast b a = true := by
      simp only [leLast, le, numbers a ha, Bool.false_or, decide_eq_true_eq]
      exact Quantity.Ordered.le_of_not_lt (numbers b hb) (numbers a ha) nearer
    refine not_sublist_swap nodup first ?_
    rw [mergeSort_eq numbers]
    exact List.pair_sublist_mergeSort leLast_trans leLast_total tied listed

end Hit

variable [Scalar α]

/-! ## Places around an origin -/

namespace World

/-- Where an entity is as seen from another one, if both are somewhere. -/
def offset? (w : World α) (origin id : EntityId) : Option (Position α) := do
  let center ← w.get? origin .position
  let p ← w.get? id .position
  some (p - center)

/-- Whether an entity comes before another one around an origin. -/
def Nearer (w : World α) (origin a b : EntityId) : Prop :=
  ∃ p q, w.offset? origin a = some p ∧ w.offset? origin b = some q ∧
    Hit.Before (p.length, a) (q.length, b)

variable {w : World α} {origin id : EntityId}

theorem offset?_eq_some {offset : Position α} :
    w.offset? origin id = some offset ↔ ∃ center p, w.get? origin .position = some center ∧
      w.get? id .position = some p ∧ offset = p - center := by
  unfold offset?
  cases w.get? origin .position <;> cases w.get? id .position <;> simp [eq_comm]

omit [Scalar α] in
theorem mem_ids_of_get? {slot : Slot α β} {x : β} (held : w.get? id slot = some x) : id ∈ w.ids := by
  obtain ⟨e, found, -⟩ := Option.bind_eq_some_iff.mp held
  exact mem_ids.mpr (has_of_entity? found)

end World

namespace Shape

/-! ## Hits -/

/-- The hit that an entity is around a center, if it is one. -/
def hit? (w : World α) (origin : EntityId) (center : Position α) (others : Bool)
    (inside : Position α → α → Bool) (id : EntityId) : Option (Hit α) :=
  if others && id == origin then none
  else match w.get? id .position with
    | none => none
    | some p =>
      let offset := p - center
      let distance := offset.length
      if inside offset distance then some (distance, id) else none

section

variable {w : World α} {origin : EntityId} {center : Position α} {others : Bool}
  {inside : Position α → α → Bool}

theorem hit?_eq_some {id : EntityId} {h : Hit α} :
    hit? w origin center others inside id = some h ↔
      (others = true → id ≠ origin) ∧ ∃ p, w.get? id .position = some p ∧
        inside (p - center) (p - center).length = true ∧ h = ((p - center).length, id) := by
  unfold hit?
  by_cases self : (others && id == origin) = true
  · rw [if_pos self]
    simp only [Bool.and_eq_true, beq_iff_eq] at self
    simp [self.1, self.2]
  · rw [if_neg self]
    have apart : others = true → id ≠ origin := by
      rintro rfl rfl
      exact self (by simp)
    cases w.get? id .position with
    | none => simp
    | some p =>
        by_cases within : inside (p - center) (p - center).length = true
        · simp only [within, if_true, Option.some.injEq, true_and, exists_eq_left']
          exact ⟨fun same => ⟨apart, same.symm⟩, fun ⟨_, same⟩ => same.symm⟩
        · simp [within]

theorem byDistance_of_center (found : w.get? origin .position = some center) :
    byDistance w origin others inside =
      ((w.ids.filterMap (hit? w origin center others inside)).mergeSort Hit.le).map (·.2) := by
  unfold byDistance
  rw [found]
  rfl

theorem byDistance_of_nowhere (nowhere : w.get? origin .position = none) :
    byDistance w origin others inside = [] := by
  unfold byDistance
  rw [nowhere]

theorem mem_byDistance {id : EntityId} :
    id ∈ byDistance w origin others inside ↔ (others = true → id ≠ origin) ∧
      ∃ offset, w.offset? origin id = some offset ∧ inside offset offset.length = true := by
  cases found : w.get? origin .position with
  | none =>
      rw [byDistance_of_nowhere found]
      simp [World.offset?, found]
  | some center =>
      rw [byDistance_of_center found]
      simp only [List.mem_map, List.mem_mergeSort, List.mem_filterMap, hit?_eq_some,
        World.offset?_eq_some, found]
      constructor
      · rintro ⟨_, ⟨_, -, apart, p, held, within, rfl⟩, rfl⟩
        exact ⟨apart, p - center, ⟨center, p, rfl, held, rfl⟩, within⟩
      · rintro ⟨apart, offset, ⟨other, p, same, held, rfl⟩, within⟩
        cases same
        exact ⟨_, ⟨id, World.mem_ids_of_get? held, apart, p, held, within, rfl⟩, rfl⟩

theorem pairwise_byDistance [Quantity.Rounded α]
    (number : ∀ offset, inside offset offset.length = true → isNaN offset.length = false) :
    (byDistance w origin others inside).Pairwise (w.Nearer origin) := by
  cases found : w.get? origin .position with
  | none =>
      rw [byDistance_of_nowhere found]
      exact .nil
  | some center =>
      rw [byDistance_of_center found]
      have numbers : ∀ h ∈ w.ids.filterMap (hit? w origin center others inside),
          isNaN h.1 = false := by
        intro h listed
        obtain ⟨id, -, hit⟩ := List.mem_filterMap.mp listed
        obtain ⟨-, p, -, within, rfl⟩ := hit?_eq_some.mp hit
        exact number _ within
      have ascending : (w.ids.filterMap (hit? w origin center others inside)).Pairwise
          (·.2 < ·.2) := by
        refine w.ids_ascending.filterMap _ fun a b less h hit h' hit' => ?_
        obtain ⟨-, p, -, -, rfl⟩ := hit?_eq_some.mp hit
        obtain ⟨-, q, -, -, rfl⟩ := hit?_eq_some.mp hit'
        exact less
      have sorted := Hit.pairwise_mergeSort numbers ascending
      refine List.pairwise_map.mpr (sorted.imp_of_mem fun {h h'} listed listed' before => ?_)
      obtain ⟨_, -, hit⟩ := List.mem_filterMap.mp (List.mem_mergeSort.mp listed)
      obtain ⟨_, -, hit'⟩ := List.mem_filterMap.mp (List.mem_mergeSort.mp listed')
      obtain ⟨-, p, held, -, rfl⟩ := hit?_eq_some.mp hit
      obtain ⟨-, q, held', -, rfl⟩ := hit?_eq_some.mp hit'
      exact ⟨p - center, q - center, World.offset?_eq_some.mpr ⟨center, p, found, held, rfl⟩,
        World.offset?_eq_some.mpr ⟨center, q, found, held', rfl⟩, before⟩

end

/-! ## Shapes -/

/-- Whether a place is in a cone: it is near enough, and in front or where the origin is. -/
structure InCone (angle length : α) (heading offset : Position α) : Prop where
  near : offset.length ≤ length
  ahead : (offset.length == 0) = true ∨ angleTo heading offset offset.length ≤ half angle + slack

/-- Whether a place is in a strip: it is in front, near enough and not too far to either side. -/
structure InStrip (length width : α) (heading offset : Position α) : Prop where
  ahead : -slack ≤ offset.dot heading
  near : offset.dot heading ≤ length + slack
  beside : Scalar.abs (offset.cross heading) ≤ half width + slack

/-- Whether an entity is one that a shape is about.  Around an origin that is nowhere there are no
offsets, and cones and strips do not have their origin in them. -/
def Covers (s : Shape α) (w : World α) (aim : Aim) (lineWidth : α) (id : EntityId) : Prop :=
  match s with
  | self => id = aim.origin
  | single => aim.designated = some id
  | all => id ∈ w.ids
  | area radius => ∃ offset, w.offset? aim.origin id = some offset ∧ offset.length ≤ radius
  | cone angle length => id ≠ aim.origin ∧
      ∃ offset, w.offset? aim.origin id = some offset ∧
        InCone angle length (headingOf w aim.origin) offset
  | line length width => id ≠ aim.origin ∧
      ∃ offset, w.offset? aim.origin id = some offset ∧
        InStrip length (width.getD lineWidth) (headingOf w aim.origin) offset

/-- Whether one of two entities that a shape is about comes first. -/
def Precedes (s : Shape α) (w : World α) (aim : Aim) (a b : EntityId) : Prop :=
  match s with
  | self | single | all => a < b
  | area .. | cone .. | line .. => w.Nearer aim.origin a b

/-- Whether a list has the entities that a shape is about, in their order. -/
structure Arranges (s : Shape α) (w : World α) (aim : Aim) (lineWidth : α) (ids : List EntityId) :
    Prop where
  covers : ∀ id, id ∈ ids ↔ s.Covers w aim lineWidth id
  ordered : ids.Pairwise (s.Precedes w aim)

theorem stripHas_iff {length width : α} {heading offset : Position α} :
    stripHas length width heading offset = true ↔ InStrip length width heading offset := by
  unfold stripHas
  simp only [Bool.and_eq_true, decide_eq_true_eq]
  exact ⟨fun ⟨⟨ahead, near⟩, beside⟩ => ⟨ahead, near, beside⟩,
    fun h => ⟨⟨h.ahead, h.near⟩, h.beside⟩⟩

variable [Scalar.Contagious α]

theorem number_of_coneHas {angle length distance : α} {heading offset : Position α}
    (has : coneHas angle length heading offset distance = true) : isNaN distance = false := by
  unfold coneHas at has
  split at has
  · cases has
  · split at has
    · next nowhere => exact Scalar.Contagious.number_of_beq nowhere
    · have sharp := of_decide_eq_true has
      unfold angleTo at sharp
      have degrees := (Quantity.Rounded.isNaN_of_le sharp).1
      have radians := Scalar.Contagious.number_of_toDegrees degrees
      have cosine := Scalar.Contagious.number_of_arcCos radians
      exact (Scalar.Contagious.numbers_of_div (Scalar.Contagious.number_of_confine cosine)).2

theorem number_of_stripHas {length width : α} {heading offset : Position α}
    (has : stripHas length width heading offset = true) : isNaN offset.length = false := by
  have along := (Quantity.Rounded.isNaN_of_le (stripHas_iff.mp has).ahead).2
  obtain ⟨first, second⟩ := Scalar.Contagious.numbers_of_add along
  exact Scalar.Contagious.isNaN_hypotenuse (Scalar.Contagious.numbers_of_mul first).1
    (Scalar.Contagious.numbers_of_mul second).1

theorem coneHas_iff {angle length : α} (number : isNaN length = false) {heading offset : Position α} :
    coneHas angle length heading offset offset.length = true ↔
      InCone angle length heading offset := by
  constructor
  · intro has
    have distance := number_of_coneHas has
    unfold coneHas at has
    split at has
    · cases has
    · next near =>
        refine ⟨Quantity.Ordered.le_of_not_lt distance number near, ?_⟩
        split at has
        · next nowhere => exact .inl nowhere
        · exact .inr (of_decide_eq_true has)
  · intro ⟨near, ahead⟩
    unfold coneHas
    rw [if_neg (Quantity.Ordered.not_lt_of_le near)]
    split
    · rfl
    · next apart => exact decide_eq_true (ahead.resolve_left apart)

omit [Scalar.Contagious α] in
theorem isParameter_of_check {s : Shape α} (checked : s.check = .ok ()) :
    ∀ entry ∈ s.parameters, isParameter entry.2 = true := by
  intro entry listed
  unfold check at checked
  split at checked
  · next nothing => simpa using List.find?_eq_none.mp nothing entry listed
  · cases checked

/-- The candidates of a shape that passes its check are those that it is about, in their order. -/
theorem arranges_candidates {s : Shape α} (checked : s.check = .ok ()) (w : World α) (aim : Aim)
    (lineWidth : α) : s.Arranges w aim lineWidth (s.candidates w aim lineWidth) := by
  cases s with
  | self => exact ⟨fun id => List.mem_singleton, List.pairwise_singleton ..⟩
  | single =>
      refine ⟨fun id => Option.mem_toList, ?_⟩
      change aim.designated.toList.Pairwise _
      cases aim.designated with
      | none => exact .nil
      | some id => exact List.pairwise_singleton ..
  | all => exact ⟨fun id => Iff.rfl, w.ids_ascending⟩
  | area radius =>
      refine ⟨fun id => by simp [candidates, mem_byDistance, Covers], ?_⟩
      change (byDistance w aim.origin false fun _ distance => distance ≤ radius).Pairwise _
      exact pairwise_byDistance fun offset inside =>
        (Quantity.Rounded.isNaN_of_le (of_decide_eq_true inside)).1
  | cone angle length =>
      have number : isNaN length = false := by
        have parameter := isParameter_of_check checked ("length", length) (by simp [parameters])
        exact Scalar.Finitary.isNaN_of_isFinite (Bool.and_eq_true_iff.mp parameter).1
      refine ⟨fun id => ?_, ?_⟩
      · simp only [candidates, mem_byDistance, Covers, coneHas_iff number, true_implies]
      · change (byDistance w aim.origin true _).Pairwise _
        exact pairwise_byDistance fun offset inside => number_of_coneHas inside
  | line length width =>
      refine ⟨fun id => ?_, ?_⟩
      · simp only [candidates, mem_byDistance, Covers, stripHas_iff, true_implies]
      · change (byDistance w aim.origin true fun offset _ => stripHas length _ _ offset).Pairwise _
        exact pairwise_byDistance fun offset inside => number_of_stripHas inside

/-! ## One arrangement -/

section

variable {s : Shape α} {w : World α} {aim : Aim}

theorem Precedes.asymm {a b : EntityId} (h : s.Precedes w aim a b) : ¬ s.Precedes w aim b a := by
  have nearer (h : w.Nearer aim.origin a b) : ¬ w.Nearer aim.origin b a := by
    obtain ⟨p, q, first, second, before⟩ := h
    rintro ⟨q', p', second', first', after⟩
    cases first.symm.trans first'
    cases second.symm.trans second'
    exact before.asymm after
  cases s with
  | self | single | all => exact Nat.lt_asymm h
  | area | cone | line => exact nearer h

variable {lineWidth : α} {ids : List EntityId}

theorem Arranges.nodup (h : s.Arranges w aim lineWidth ids) : ids.Nodup := by
  refine h.ordered.imp fun {a b} before same => ?_
  subst same
  exact before.asymm before

/-- There is one way only to list the entities that a shape is about in their order. -/
theorem Arranges.unique {ids' : List EntityId} (h : s.Arranges w aim lineWidth ids)
    (h' : s.Arranges w aim lineWidth ids') : ids = ids' := by
  refine List.Perm.eq_of_pairwise (fun a b _ _ before after => ?_) h.ordered h'.ordered ?_
  · exact absurd after before.asymm
  · refine (List.perm_ext_iff_of_nodup h.nodup h'.nodup).mpr fun id => ?_
    rw [h.covers, h'.covers]

end

end Shape

end Grimoire
