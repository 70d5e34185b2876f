import Grimoire.Proofs.Target.Candidates

/-! # Whom a selector chooses

Every candidate of the shape is asked once, in the order of the candidates, whether it exists and passes
the filter; the predicate may draw random numbers, and may fail.  Only then are some left out, and only
then are as many kept as there is room for.  So neither has any part in what the predicate is asked.
-/

namespace Grimoire

variable {α : Type}

/-! ## Filters -/

/-- Whether an entity has a type, a faction and the components that a filter asks for. -/
structure Filter.Meets (f : Filter α) (e : Entity α) : Prop where
  typed : f.entityTypes = [] ∨ e.typeName ∈ f.entityTypes
  sided : f.factions = [] ∨ ∃ faction ∈ f.factions, e.get? .faction = some faction
  equipped : ∀ name ∈ f.components, e.hasComponent name = true

theorem Filter.admits_iff {f : Filter α} {e : Entity α} : f.admits e = true ↔ f.Meets e := by
  have sided : ((e.get? .faction).map f.factions.contains).getD false = true ↔
      ∃ faction ∈ f.factions, e.get? .faction = some faction := by
    cases e.get? .faction <;> simp [eq_comm]
  unfold admits
  simp only [Bool.and_eq_true, Bool.or_eq_true, List.isEmpty_iff, List.contains_iff_mem,
    List.all_eq_true, sided]
  exact ⟨fun ⟨⟨typed, sided⟩, equipped⟩ => ⟨typed, sided, equipped⟩,
    fun h => ⟨⟨h.typed, h.sided⟩, h.equipped⟩⟩

variable [Scalar α]

theorem Filter.passes_of_unmet {f : Filter α} {e : Entity α} (unmet : ¬ f.Meets e) (w : World α)
    (caster id : EntityId) : f.passes w caster id e = pure false :=
  if_neg fun admitted => unmet (admits_iff.mp admitted)

theorem Filter.passes_of_met {f : Filter α} {e : Entity α} (met : f.Meets e) (w : World α)
    (caster id : EntityId) :
    f.passes w caster id e = match f.predicate with
      | none => pure true
      | some p => p.evalBool ⟨w, caster, some id⟩ :=
  if_pos (admits_iff.mpr met)

/-- How a candidate is asked, from one state of the stream: it passes, or it does not, or the predicate
fails. -/
inductive Asks (filter : Option (Filter α)) (w : World α) (caster id : EntityId) (r : Stream) :
    EStateM.Result Fault Stream Bool → Prop where
  | gone (nobody : w.entity? id = none) : Asks filter w caster id r (.ok false r)
  | free {e} (found : w.entity? id = some e) (all : filter = none) :
      Asks filter w caster id r (.ok true r)
  | fails {e f} (found : w.entity? id = some e) (own : filter = some f) (unmet : ¬ f.Meets e) :
      Asks filter w caster id r (.ok false r)
  | meets {e f} (found : w.entity? id = some e) (own : filter = some f) (met : f.Meets e)
      (unasked : f.predicate = none) : Asks filter w caster id r (.ok true r)
  | decides {e f p} (found : w.entity? id = some e) (own : filter = some f) (met : f.Meets e)
      (asked : f.predicate = some p) :
      Asks filter w caster id r (p.evalBool ⟨w, caster, some id⟩ r)

/-- How candidates are asked, one after the other, and which of them pass. -/
inductive Sifts (filter : Option (Filter α)) (w : World α) (caster : EntityId) :
    List EntityId → Stream → EStateM.Result Fault Stream (List EntityId) → Prop where
  | nil (r) : Sifts filter w caster [] r (.ok [] r)
  | keeps {id ids r r₁ kept r'} (asked : Asks filter w caster id r (.ok true r₁))
      (rest : Sifts filter w caster ids r₁ (.ok kept r')) :
      Sifts filter w caster (id :: ids) r (.ok (id :: kept) r')
  | drops {id ids r r₁ kept r'} (asked : Asks filter w caster id r (.ok false r₁))
      (rest : Sifts filter w caster ids r₁ (.ok kept r')) :
      Sifts filter w caster (id :: ids) r (.ok kept r')
  | breaks {id ids r fault r'} (asked : Asks filter w caster id r (.error fault r')) :
      Sifts filter w caster (id :: ids) r (.error fault r')
  | breaksLater {id ids r passes r₁ fault r'} (asked : Asks filter w caster id r (.ok passes r₁))
      (rest : Sifts filter w caster ids r₁ (.error fault r')) :
      Sifts filter w caster (id :: ids) r (.error fault r')

namespace Asks

variable {filter : Option (Filter α)} {w : World α} {caster id : EntityId} {r : Stream}

theorem exists_result (filter : Option (Filter α)) (w : World α) (caster id : EntityId)
    (r : Stream) : ∃ result, Asks filter w caster id r result := by
  cases found : w.entity? id with
  | none => exact ⟨_, .gone found⟩
  | some e =>
      cases own : filter with
      | none => exact ⟨_, .free found rfl⟩
      | some f =>
          by_cases met : f.Meets e
          · cases asked : f.predicate with
            | none => exact ⟨_, .meets found rfl met asked⟩
            | some p => exact ⟨_, .decides found rfl met asked⟩
          · exact ⟨_, .fails found rfl met⟩

end Asks

namespace Sifts

variable {filter : Option (Filter α)} {w : World α} {caster : EntityId} {ids : List EntityId}
  {r : Stream}

theorem exists_result (filter : Option (Filter α)) (w : World α) (caster : EntityId)
    (ids : List EntityId) (r : Stream) : ∃ result, Sifts filter w caster ids r result := by
  induction ids generalizing r with
  | nil => exact ⟨_, .nil r⟩
  | cons id ids ih =>
      obtain ⟨answer, asked⟩ := Asks.exists_result filter w caster id r
      cases answer with
      | error fault r' => exact ⟨_, .breaks asked⟩
      | ok passes r₁ =>
          obtain ⟨result, rest⟩ := ih r₁
          cases result with
          | error fault r' => exact ⟨_, .breaksLater asked rest⟩
          | ok kept r' =>
              cases passes with
              | true => exact ⟨_, .keeps asked rest⟩
              | false => exact ⟨_, .drops asked rest⟩

theorem sublist {kept : List EntityId} {r' : Stream}
    (sifts : Sifts filter w caster ids r (.ok kept r')) : kept.Sublist ids := by
  generalize answered : EStateM.Result.ok kept r' = result at sifts
  induction sifts generalizing kept r' with
  | nil =>
      cases answered
      exact .slnil
  | keeps asked rest ih =>
      cases answered
      exact (ih rfl).cons_cons _
  | drops asked rest ih => exact (ih answered).cons _
  | breaks | breaksLater => cases answered

end Sifts

/-! ## Exclusions -/

/-- The same end of a draw with what is made of its answer. -/
def Draw.ending {β γ : Type} (f : β → γ) :
    EStateM.Result Fault Stream β → EStateM.Result Fault Stream γ
  | .ok x r => .ok (f x) r
  | .error fault r => .error fault r

namespace Selector

variable {s : Selector α} {w : World α} {aim : Aim}

/-- Whether a selector leaves out an entity that has passed. -/
def LeavesOut (s : Selector α) (aim : Aim) (id : EntityId) : Prop :=
  s.excludeSelf = true ∧ (id = aim.caster ∨ id = aim.origin) ∨
    s.excludePrevious = true ∧ id ∈ aim.previous

instance (s : Selector α) (aim : Aim) (id : EntityId) : Decidable (s.LeavesOut aim id) :=
  inferInstanceAs (Decidable (_ ∨ _))

omit [Scalar α] in
theorem excludes_eq (s : Selector α) (aim : Aim) (id : EntityId) :
    s.excludes aim id = decide (s.LeavesOut aim id) := by
  rw [Bool.eq_iff_iff, decide_eq_true_iff]
  simp [excludes, LeavesOut]

/-- What a selector takes of the candidates that have passed. -/
def take (s : Selector α) (aim : Aim) (kept : List EntityId) : List EntityId :=
  s.limit (kept.filter fun id => ¬ s.LeavesOut aim id)

theorem admits_of_asks {id : EntityId} {r : Stream} {answer : EStateM.Result Fault Stream Bool}
    (asked : Asks s.filter w aim.caster id r answer) :
    s.admits w aim id r = Draw.ending (· && ¬ s.LeavesOut aim id) answer := by
  have filtered {e f} (found : w.entity? id = some e) (own : s.filter = some f) :
      s.admits w aim id = (do
        let passes ← f.passes w aim.caster id e
        pure (passes && ¬ s.LeavesOut aim id)) := by
    unfold admits
    rw [found, own, excludes_eq, decide_not]
  cases asked with
  | gone nobody =>
      unfold admits
      rw [nobody]
      rfl
  | free found all =>
      unfold admits
      rw [found, excludes_eq, ← decide_not]
      simp only [all]
      rfl
  | fails found own unmet =>
      rw [filtered found own, Filter.passes_of_unmet unmet]
      rfl
  | meets found own met unasked =>
      rw [filtered found own, Filter.passes_of_met met, unasked]
      rfl
  | @decides e f p found own met asked =>
      rw [filtered found own, Filter.passes_of_met met, asked]
      cases decided : p.evalBool ⟨w, aim.caster, some id⟩ r with
      | ok passes r' => exact Run.bind_ok decided
      | error fault r' => exact Run.bind_error decided

theorem choose_of_sifts {ids : List EntityId} {r : Stream}
    {result : EStateM.Result Fault Stream (List EntityId)}
    (sifts : Sifts s.filter w aim.caster ids r result) :
    s.choose w aim ids r =
      Draw.ending (List.filter fun id => ¬ s.LeavesOut aim id) result := by
  induction sifts with
  | nil => rfl
  | @keeps id ids r r₁ kept r' asked rest ih =>
      refine (Run.bind_ok (admits_of_asks asked)).trans ((Run.bind_ok ih).trans ?_)
      simp only [Draw.ending, Bool.true_and, List.filter_cons]
      rfl
  | drops asked rest ih =>
      exact (Run.bind_ok (admits_of_asks asked)).trans (Run.bind_ok ih)
  | breaks asked => exact Run.bind_error (admits_of_asks asked)
  | breaksLater asked rest ih =>
      exact (Run.bind_ok (admits_of_asks asked)).trans (Run.bind_error ih)

theorem resolve_of_sifts {lineWidth : α} {r : Stream} (checked : s.shape.check = .ok ())
    {result : EStateM.Result Fault Stream (List EntityId)}
    (sifts : Sifts s.filter w aim.caster (s.shape.candidates w aim lineWidth) r result) :
    s.resolve w aim lineWidth r = Draw.ending (s.take aim) result := by
  have chosen := choose_of_sifts sifts
  unfold resolve
  rw [checked]
  cases result with
  | ok kept r' => exact Run.bind_ok chosen
  | error fault r' => exact Run.bind_error chosen

theorem resolve_of_check_error {lineWidth : α} {r : Stream} {fault : Fault}
    (checked : s.shape.check = .error fault) :
    s.resolve w aim lineWidth r = .error fault r := by
  unfold resolve
  rw [checked]
  rfl

/-- Selectors of the same shape and filter end alike: they fail with the same fault, or take what they
take of the same ones, and leave the same stream behind. -/
theorem resolve_alike {s' : Selector α} (shape : s'.shape = s.shape) (filter : s'.filter = s.filter)
    (w : World α) (aim : Aim) (lineWidth : α) (r : Stream) : ∃ result,
      s.resolve w aim lineWidth r = Draw.ending (s.take aim) result ∧
      s'.resolve w aim lineWidth r = Draw.ending (s'.take aim) result := by
  cases checked : s.shape.check with
  | error fault =>
      exact ⟨.error fault r, resolve_of_check_error checked,
        resolve_of_check_error (shape ▸ checked)⟩
  | ok =>
      obtain ⟨result, sifts⟩ := Sifts.exists_result s.filter w aim.caster
        (s.shape.candidates w aim lineWidth) r
      refine ⟨result, resolve_of_sifts checked sifts, ?_⟩
      rw [← filter, ← shape] at sifts
      exact resolve_of_sifts (shape ▸ checked) sifts

/-! ## What is taken -/

section

omit [Scalar α]

variable {kept : List EntityId}

theorem take_sublist (s : Selector α) (aim : Aim) (kept : List EntityId) :
    (s.take aim kept).Sublist kept := by
  unfold take limit
  split
  · exact List.filter_sublist
  · exact (List.take_sublist ..).trans List.filter_sublist

theorem length_take_le {most : Nat} (limited : s.maxTargets = some most) :
    (s.take aim kept).length ≤ most := by
  unfold take limit
  rw [limited]
  exact List.length_take_le ..

theorem rel_of_not_mem_take {R : EntityId → EntityId → Prop} (ordered : kept.Pairwise R)
    {a b : EntityId} (passed : a ∈ kept) (included : ¬ s.LeavesOut aim a)
    (missed : a ∉ s.take aim kept) (taken : b ∈ s.take aim kept) : R b a := by
  have listed : a ∈ kept.filter fun id => ¬ s.LeavesOut aim id :=
    List.mem_filter.mpr ⟨passed, decide_eq_true included⟩
  unfold take limit at missed taken
  cases limited : s.maxTargets with
  | none =>
      rw [limited] at missed
      exact absurd listed missed
  | some most =>
      rw [limited] at missed taken
      have split := (ordered.sublist List.filter_sublist : (kept.filter fun id =>
        ¬ s.LeavesOut aim id).Pairwise R)
      rw [← List.take_append_drop most (kept.filter _)] at split listed
      exact (List.pairwise_append.mp split).2.2 b taken a
        ((List.mem_append.mp listed).resolve_left missed)

end

/-! ## Resolution -/

variable [Scalar.Contagious α]

theorem resolve_eq_ok_iff {lineWidth : α} {r r' : Stream} {ids : List EntityId} :
    s.resolve w aim lineWidth r = .ok ids r' ↔
      s.shape.check = .ok () ∧ ∃ candidates kept, s.shape.Arranges w aim lineWidth candidates ∧
        Sifts s.filter w aim.caster candidates r (.ok kept r') ∧ ids = s.take aim kept := by
  constructor
  · intro resolved
    cases checked : s.shape.check with
    | error fault =>
        rw [resolve_of_check_error checked] at resolved
        cases resolved
    | ok =>
        obtain ⟨result, sifts⟩ := Sifts.exists_result s.filter w aim.caster
          (s.shape.candidates w aim lineWidth) r
        rw [resolve_of_sifts checked sifts] at resolved
        cases result with
        | error fault r'' => cases resolved
        | ok kept r'' =>
            cases resolved
            exact ⟨rfl, _, kept, Shape.arranges_candidates checked w aim lineWidth, sifts, rfl⟩
  · rintro ⟨checked, candidates, kept, arranged, sifts, rfl⟩
    rw [arranged.unique (Shape.arranges_candidates checked w aim lineWidth)] at sifts
    rw [resolve_of_sifts checked sifts]
    rfl

/-- A candidate that comes before somebody who is taken is taken too, or has not passed, or is left
out. -/
theorem not_mem_or_leavesOut {kept : List EntityId} {a b : EntityId}
    (ordered : kept.Pairwise (s.shape.Precedes w aim)) (missed : a ∉ s.take aim kept)
    (taken : b ∈ s.take aim kept) (before : s.shape.Precedes w aim a b) :
    a ∉ kept ∨ s.LeavesOut aim a := by
  by_contra outside
  obtain ⟨passed, included⟩ := not_or.mp outside
  exact before.asymm (rel_of_not_mem_take ordered (not_not.mp passed) included missed taken)

/-- A selector is resolved to what its parts specify: the candidates of its shape in their order,
restricted to existing entities that pass the filter and are not excluded, cut off at the maximum. So
there are no duplicates, no more than the maximum, and a chosen entity is preceded only by candidates
that are chosen, do not pass or are excluded. Selectors that differ only in maximum and exclusions run
the same filter: they fail alike, choose from the same list, and leave the same stream. -/
theorem resolve_as_specified (s : Selector α) (w : World α) (aim : Aim) (lineWidth : α)
    (r : Stream) :
    (∀ ids r', s.resolve w aim lineWidth r = .ok ids r' ↔
      s.shape.check = .ok () ∧ ∃ candidates kept, s.shape.Arranges w aim lineWidth candidates ∧
        Sifts s.filter w aim.caster candidates r (.ok kept r') ∧ ids = s.take aim kept) ∧
    (∀ candidates kept r', s.shape.Arranges w aim lineWidth candidates →
      Sifts s.filter w aim.caster candidates r (.ok kept r') →
        (s.take aim kept).Nodup ∧
        (∀ most, s.maxTargets = some most → (s.take aim kept).length ≤ most) ∧
        ∀ a ∈ candidates, a ∉ s.take aim kept → ∀ b ∈ s.take aim kept,
          s.shape.Precedes w aim a b → a ∉ kept ∨ s.LeavesOut aim a) ∧
    ∀ s' : Selector α, s'.shape = s.shape → s'.filter = s.filter → ∃ result,
      s.resolve w aim lineWidth r = Draw.ending (s.take aim) result ∧
      s'.resolve w aim lineWidth r = Draw.ending (s'.take aim) result := by
  refine ⟨fun ids r' => resolve_eq_ok_iff, fun candidates kept r' arranged sifts => ?_,
    fun s' shape filter => resolve_alike shape filter w aim lineWidth r⟩
  refine ⟨arranged.nodup.sublist ((s.take_sublist aim kept).trans sifts.sublist),
    fun most => length_take_le, fun a _ missed b taken before => ?_⟩
  exact not_mem_or_leavesOut (arranged.ordered.sublist sifts.sublist) missed taken before

/-! ## A ring of statues -/

/-- A wizard, two statues that are as far away as each other, and one that is nearer. -/
def clearing : World Float :=
  let put (w : World Float) (x y : Float) : World Float :=
    (w.spawn fun id => ({ id := id, typeName := "statue" } : Entity Float).put .position ⟨x, y⟩).2
  put (put (put (put .empty 0 0) 3 0) 0 3) 1 0

def lookout : Aim := { caster := 1, origin := 1, designated := none, previous := ∅ }

def everyone : Selector Float where
  shape := .area 3

/-- The two nearest within three steps of whoever casts. -/
def nearest : Selector Float := { everyone with maxTargets := some 2, excludeSelf := true }

/-- Candidates are ordered by distance, and at the same distance by number. -/
theorem candidates_clearing : everyone.shape.candidates clearing lookout 1 = [1, 4, 2, 3] := by
  have center : clearing.get? lookout.origin .position = some ⟨0, 0⟩ := by decide +kernel
  have hits : clearing.ids.filterMap (Shape.hit? clearing lookout.origin ⟨0, 0⟩ false
      fun _ distance => distance ≤ 3) = [(0, 1), (3, 2), (3, 3), (1, 4)] := by decide +kernel
  have sorted : ([(0, 1), (3, 2), (3, 3), (1, 4)] : List (Hit Float)).mergeSort Hit.le =
      [(0, 1), (1, 4), (3, 2), (3, 3)] := by
    have here : Hit.le ((0 : Float), 1) (3, 2) = true := by decide +kernel
    have tied : Hit.le ((3 : Float), 2) (3, 3) = true := by decide +kernel
    have nearer : Hit.le ((0 : Float), 1) (1, 4) = true := by decide +kernel
    have far : Hit.le ((3 : Float), 2) (1, 4) = false := by decide +kernel
    have far' : Hit.le ((3 : Float), 3) (1, 4) = false := by decide +kernel
    simp [List.mergeSort, List.MergeSort.Internal.splitInTwo, here, tied, nearer, far, far']
  change Shape.byDistance clearing lookout.origin false (fun _ distance => distance ≤ 3) = _
  rw [Shape.byDistance_of_center center, hits, sorted]
  rfl

/-- The two nearest statues are chosen, and the wizard is excluded; without limits all are chosen. -/
theorem nearest_resolved :
    nearest.resolve clearing lookout 1 (.ofSeed 7) = .ok [4, 2] (.ofSeed 7) ∧
      everyone.resolve clearing lookout 1 (.ofSeed 7) = .ok [1, 4, 2, 3] (.ofSeed 7) ∧
      [4, 2].Nodup ∧ [4, 2].length ≤ 2 ∧
      (1 ∉ [1, 4, 2, 3] ∨ nearest.LeavesOut lookout 1) ∧
      ∃ result, nearest.resolve clearing lookout 1 (.ofSeed 7) =
          Draw.ending (nearest.take lookout) result ∧
        everyone.resolve clearing lookout 1 (.ofSeed 7) =
          Draw.ending (everyone.take lookout) result := by
  have arranged : everyone.shape.Arranges clearing lookout 1 [1, 4, 2, 3] :=
    candidates_clearing ▸ Shape.arranges_candidates (by decide +kernel) clearing lookout 1
  have sifts : Sifts none clearing lookout.caster [1, 4, 2, 3] (.ofSeed 7)
      (.ok [1, 4, 2, 3] (.ofSeed 7)) := by
    have asked (id : EntityId) (here : (clearing.entity? id).isSome = true) :
        Asks none clearing lookout.caster id (.ofSeed 7) (.ok true (.ofSeed 7)) :=
      .free (Option.some_get here).symm rfl
    exact .keeps (asked 1 (by decide +kernel)) <| .keeps (asked 4 (by decide +kernel)) <|
      .keeps (asked 2 (by decide +kernel)) <| .keeps (asked 3 (by decide +kernel)) <| .nil _
  have first : nearest.shape.Precedes clearing lookout 1 4 :=
    ⟨⟨0, 0⟩, ⟨1, 0⟩, by decide +kernel, by decide +kernel, .inl (by decide +kernel)⟩
  obtain ⟨answers, chosen, alike⟩ := resolve_as_specified nearest clearing lookout 1 (.ofSeed 7)
  obtain ⟨nodup, few, passed⟩ := chosen _ _ _ arranged sifts
  refine ⟨?_, ?_, nodup, few 2 rfl, ?_, alike everyone rfl rfl⟩
  · exact (answers _ _).mpr ⟨by decide +kernel, _, _, arranged, sifts, by decide +kernel⟩
  · exact ((resolve_as_specified everyone clearing lookout 1 (.ofSeed 7)).1 _ _).mpr
      ⟨by decide +kernel, _, _, arranged, sifts, by decide +kernel⟩
  · exact passed 1 (by decide) (by decide +kernel) 4 (by decide +kernel) first

end Selector

end Grimoire
