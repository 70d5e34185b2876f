import Grimoire.Proofs.Effect.Decoding
import Grimoire.Report.Document

/-! # Documents that are read back

Effects and requests come back from their documents as they were.  The type of effects has room for some
that no document holds: counts and ticks that are too large, and paths that read something else than
what their texts stand for.  `IsTyped` leaves these out, and everything that was ever read is typed.  The
numbers of an effect are those that are written out in it; they have to read back from their own
texts, which no number does that is not finite.
-/

namespace Grimoire

open Json Record

variable {α : Type}

/-! ## Numbers -/

def Shape.numbers (s : Shape α) : List α := s.parameters.map (·.2)

def Selector.numbers (s : Selector α) : List α :=
  s.shape.numbers ++ s.expressions.flatMap Expr.numbers

/-- The numbers of an operation itself, without those of the operations in it. -/
def Operation.numbers (op : Operation α) : List α :=
  op.selectors.flatMap (·.shape.numbers) ++ op.expressions.flatMap Expr.numbers

def Effect.numbers (e : Effect α) : List α :=
  e.target.numbers ++ e.conditions.flatMap Expr.numbers ++ e.parts.flatMap Operation.numbers

/-- All numbers that are written out in what a request is about. -/
def Work.numbers : Work α → List α
  | effect e => e.numbers
  | operations _ ops => (Operation.partsAll ops).flatMap Operation.numbers

/-! ## What documents can hold -/

/-- Whether the counts and ticks of an effect are such, and its paths read what their texts stand
for. -/
structure Effect.IsTyped (e : Effect α) : Prop where
  target : e.target.IsTyped
  operations : ∀ op ∈ e.parts, op.IsTyped
  timing : e.timing.IsTyped
  conditions : ∀ x ∈ e.conditions, x.IsResolved

def Work.IsTyped : Work α → Prop
  | effect e => e.IsTyped
  | operations target ops => target ≤ maxCount ∧ ∀ op ∈ Operation.partsAll ops, op.IsTyped

/-- Whether the entities and the ticks of a request are such, and what it is about is typed. -/
structure Request.IsTyped (q : Request α) : Prop where
  caster : q.caster ≤ maxCount
  target : ∀ n ∈ q.target, n ≤ maxCount
  dueTick : q.dueTick ≤ maxTick
  period : ∀ n ∈ q.period, n ≤ maxTick
  lastTick : ∀ n ∈ q.lastTick, n ≤ maxTick
  work : q.work.IsTyped

/-! ## Reading what was written -/

theorem Expr.isKept_of_mem {xs : List (Expr Float)} (typed : ∀ x ∈ xs, x.IsResolved)
    (back : ∀ n ∈ xs.flatMap numbers, ReadsBack n) : ∀ x ∈ xs, x.IsKept :=
  fun x listed => ⟨typed x listed, fun n member => back n (List.mem_flatMap.mpr ⟨x, listed, member⟩)⟩

theorem Shape.back_of_numbers {s : Shape Float} (back : ∀ n ∈ s.numbers, ReadsBack n) :
    ∀ p ∈ s.parameters, ReadsBack p.2 :=
  fun _ listed => back _ (List.mem_map_of_mem listed)

theorem Selector.spells_of_isTyped {s : Selector Float} (typed : s.IsTyped)
    (back : ∀ n ∈ s.numbers, ReadsBack n) : Spells ofJson s.toJson s := by
  obtain ⟨shape, expressions⟩ := List.forall_mem_append.mp back
  exact spells ⟨typed.count, Shape.back_of_numbers shape⟩
    (Expr.isKept_of_mem typed.resolved expressions)

theorem Operation.isKept_of_mem {ops : List (Operation Float)} (typed : ∀ op ∈ ops, op.IsTyped)
    (back : ∀ n ∈ ops.flatMap numbers, ReadsBack n) : ∀ op ∈ ops, op.IsKept := by
  intro op listed
  have own : ∀ n ∈ op.numbers, ReadsBack n := fun n member =>
    back n (List.mem_flatMap.mpr ⟨op, listed, member⟩)
  obtain ⟨shapes, expressions⟩ := List.forall_mem_append.mp own
  refine ⟨Expr.isKept_of_mem (typed op listed).resolved expressions, fun s member => ?_⟩
  exact ⟨(typed op listed).counts s member, Shape.back_of_numbers fun n number =>
    shapes n (List.mem_flatMap.mpr ⟨s, member, number⟩)⟩

theorem Operation.spells_named {ops : List (Operation Float)} (h : ∀ op ∈ partsAll ops, op.IsKept) :
    Spells (asList ofNamed) (.list (toJsonAll ops)) ops := by
  have same : ∀ ops : List (Operation Float), toJsonAll ops = ops.map toJson := by
    intro ops
    induction ops with
    | nil => rfl
    | cons op ops ih => rw [toJsonAll, ih, List.map_cons]
  rw [same]
  refine .list fun op listed => .whole (spells .name fun part member => h part ?_)
  induction ops with
  | nil => cases listed
  | cons first ops ih =>
      rw [partsAll, List.mem_append]
      obtain rfl | later := List.mem_cons.mp listed
      · exact .inl member
      · exact .inr (ih (fun part member => h part (List.mem_append_right _ member)) later)

/-- A document that spells something is read as it, text and all. -/
theorem Json.Spells.decode {γ : Type} {read : Json → Except DecodeFault γ} {j : Json} {x : γ}
    (h : Spells read j x) (deep : j.depth ≤ maxNesting) : decode read j.compact = .ok x := by
  rw [decode_eq_ok_iff, h.legible.read_compact deep]
  exact ⟨h.reads, rfl⟩

namespace Effect

variable {e : Effect Float}

/-- An effect is spelled by what it is written as, for any readers that its operations and its timing
are spelled for. -/
theorem spells {operations : Json → Except DecodeFault (List (Operation Float))}
    {timing : Json → Except DecodeFault Timing} (typed : e.IsTyped)
    (back : ∀ n ∈ e.numbers, ReadsBack n)
    (ho : Spells operations (.list (Operation.toJsonAll e.operations)) e.operations)
    (ht : Spells timing e.timing.toJson e.timing) :
    Spells (asRecord columns (ofMembers operations timing)) e.toJson e := by
  obtain ⟨front, _⟩ := List.forall_mem_append.mp back
  obtain ⟨selector, conditions⟩ := List.forall_mem_append.mp front
  have text (o : Option String) : Spells (asOption asText) (.ofOption .text o) o :=
    .option (fun s _ => .text s) fun s _ => nofun
  have target := Selector.spells_of_isTyped typed.target selector
  have conditions : Spells (asList Expr.ofJson) (.ofList Expr.toJson e.conditions) e.conditions :=
    .list fun x listed => Expr.spells (Expr.isKept_of_mem typed.conditions conditions x listed)
  refine .ofRecord (by simp [(text _).legible, target.legible, ho.legible, ht.legible,
    conditions.legible]) ?_
  exact ((((((optional_finds ⟨_, rfl⟩ (text e.id).reads).map mk).seq
    (optional_finds ⟨_, rfl⟩ (text e.name).reads)).seq
    (optional_finds ⟨_, rfl⟩ (text e.description).reads)).seq
    (required_finds ⟨_, rfl⟩ target.reads)).seq
    (required_finds ⟨_, rfl⟩ ho.reads)).seq
    (optional_finds ⟨_, rfl⟩ ht.reads) |>.seq
    (optional_finds ⟨_, rfl⟩ conditions.reads)

theorem spells_ofJson (typed : e.IsTyped) (back : ∀ n ∈ e.numbers, ReadsBack n) :
    Spells ofJson e.toJson e := by
  obtain ⟨_, parts⟩ := List.forall_mem_append.mp back
  exact spells typed back (Operation.spells_named (Operation.isKept_of_mem typed.operations parts))
    (Timing.spells typed.timing .name)

theorem spells_ofHeld (typed : e.IsTyped) (back : ∀ n ∈ e.numbers, ReadsBack n) :
    Spells ofHeld e.toJson e := by
  obtain ⟨_, parts⟩ := List.forall_mem_append.mp back
  exact spells typed back (Operation.spells_list (Operation.isKept_of_mem typed.operations parts))
    (Timing.spells typed.timing .nameOrPlace)

theorem ofJson_yields : Json.Yields ofJson IsTyped := by
  refine .ofRecord fun members e found => ?_
  simp only [ofMembers, Placed.finds_seq, Placed.finds_map] at found
  obtain ⟨_, ⟨_, ⟨_, ⟨_, ⟨_, ⟨_, ⟨_, _, rfl⟩, _, _, rfl⟩, _, _, rfl⟩, target, ht, rfl⟩, operations, ho,
    rfl⟩, timing, hm, rfl⟩, conditions, hc, rfl⟩ := found
  have immediate : Timing.immediate.IsTyped := trivial
  refine ⟨required_yields (fun m _ => Selector.ofJson_yields m.2) target ht, ?_,
    optional_yields (fun m _ => Timing.ofJson_yields .name m.2) immediate timing hm,
    optional_yields (fun m _ => Expr.ofJson_yields.list m.2) (by simp) conditions hc⟩
  have each := required_yields (fun m _ => Operation.ofNamed_yields.list m.2) operations ho
  change ∀ op ∈ Operation.partsAll operations, op.IsTyped
  clear ho
  induction operations with
  | nil => exact List.forall_mem_nil _
  | cons op ops ih =>
      obtain ⟨first, others⟩ := List.forall_mem_cons.mp each
      exact List.forall_mem_append.mpr ⟨first, ih others⟩

end Effect

namespace Work

theorem spells {w : Work Float} (typed : w.IsTyped) (back : ∀ n ∈ w.numbers, ReadsBack n) :
    Spells ofJson w.toJson w := by
  cases w with
  | effect e =>
      have e' := Effect.spells_ofHeld typed back
      exact .ofKind (by simp [e'.legible]) ⟨_, rfl⟩ rfl
        ((required_finds ⟨_, rfl⟩ e'.reads).map effect)
  | operations target ops =>
      have target := Spells.nat typed.1 maxCount_lt
      have ops := Operation.spells_list (Operation.isKept_of_mem typed.2 back)
      exact .ofKind (by simp [target.legible, ops.legible]) ⟨_, rfl⟩ rfl
        (((required_finds ⟨_, rfl⟩ target.reads).map operations).seq
          (required_finds ⟨_, rfl⟩ ops.reads))

end Work

namespace Request

theorem spells {q : Request Float} (typed : q.IsTyped) (back : ∀ n ∈ q.work.numbers, ReadsBack n) :
    Spells ofJson q.toJson q := by
  have option {bound : Nat} {o : Option Nat} (le : ∀ n ∈ o, n ≤ bound) (fits : bound < twoTo 64) :
      Spells (asOption (asNat bound)) (.ofOption .ofNat o) o :=
    .option (fun n held => .nat (le n held) fits) fun n _ => ofNat_ne_null n
  have caster := Spells.nat typed.caster maxCount_lt
  have target := option typed.target maxCount_lt
  have dueTick := Spells.nat typed.dueTick maxTick_lt
  have period := option typed.period maxTick_lt
  have lastTick := option typed.lastTick maxTick_lt
  have work := Work.spells typed.work back
  refine .ofRecord (by simp [caster.legible, target.legible, dueTick.legible, period.legible,
    lastTick.legible, work.legible]) ?_
  exact (((((required_finds ⟨_, rfl⟩ caster.reads).map mk).seq
    (optional_finds ⟨_, rfl⟩ target.reads)).seq
    (required_finds ⟨_, rfl⟩ dueTick.reads)).seq
    (optional_finds ⟨_, rfl⟩ period.reads)).seq
    (optional_finds ⟨_, rfl⟩ lastTick.reads) |>.seq
    (required_finds ⟨_, rfl⟩ work.reads)

end Request

/-! ## Documents -/

namespace Effect

theorem isTyped_of_read {s : String} {e : Effect Float} (h : read s = .ok e) : e.IsTyped := by
  unfold read readAs at h
  cases decoded : decode ofJson s with
  | error cause =>
      rw [decoded] at h
      cases h
  | ok e' =>
      rw [decoded] at h
      cases h
      exact ofJson_yields _ e ((decode_eq_ok_iff ofJson s e).mp decoded).1

theorem read_compact {j : Json} {e : Effect Float} (h : Spells ofJson j e)
    (deep : j.depth ≤ maxNesting) : read j.compact = .ok e := by
  unfold read readAs
  rw [h.decode deep]
  rfl

/-- The documents of effects and requests are read back as what was written, if their numbers are read
back and they are not nested too deeply. So reading a document and writing it again keeps its meaning,
however the first document was laid out. -/
theorem documents_read_back :
    (∀ e : Effect Float, e.IsTyped → (∀ n ∈ e.numbers, ReadsBack n) →
      e.toJson.depth ≤ maxNesting → read e.write = .ok e) ∧
    (∀ q : Request Float, q.IsTyped → (∀ n ∈ q.work.numbers, ReadsBack n) →
      q.toJson.depth ≤ maxNesting → Request.read? q.toJson.compact = some q) ∧
    ∀ (s : String) (e : Effect Float), read s = .ok e → (∀ n ∈ e.numbers, ReadsBack n) →
      e.toJson.depth ≤ maxNesting → read e.write = .ok e := by
  refine ⟨fun e typed back deep => read_compact (spells_ofJson typed back) deep,
    fun q typed back deep => ?_,
    fun s e found back deep => read_compact (spells_ofJson (isTyped_of_read found) back) deep⟩
  unfold Request.read?
  rw [(Request.spells typed back).decode deep]
  rfl

/-- An effect that pours over an area every now and then. -/
def drizzle : Effect Float where
  id := some "drizzle"
  target := { shape := .area 2.5, maxTargets := some 3 }
  operations := [.iterate (.path ⟨"tick", .tick⟩) [.act (.removeStatus "burning" .all)]]
  timing := .periodic 5 20

def drizzleLater : Request Float where
  caster := 1
  target := none
  dueTick := 5
  work := .operations 2 drizzle.operations

/-- A document of `drizzle` in another layout than it is written in: second names, members in another
order, one that nobody asks for, and none for what there is a default. -/
def drizzleDraft : Json :=
  .record
    [("target", .record [("count", .ofNat 3), ("radius", .float 2.5), ("type", .text "area")]),
     ("timing", .record
       [("interval", .ofNat 5), ("type", .text "over_time"), ("duration", .ofNat 20)]),
     ("hue", .text "grey"),
     ("operations", .list
       [.record [("times", .text "tick"), ("op", .text "repeat"), ("operations", .list
         [.record [("status", .text "burning"), ("op", .text "remove_status")]])]]),
     ("id", .text "drizzle")]

theorem drizzle_read_back :
    read drizzle.write = .ok drizzle ∧
    Request.read? drizzleLater.toJson.compact = some drizzleLater ∧
    read drizzleDraft.compact = .ok drizzle ∧ read drizzle.write = .ok drizzle := by
  have half : ReadsBack 2.5 := by
    unfold ReadsBack
    rfl
  have numbers : drizzle.numbers = [2.5] := rfl
  have back : ∀ n ∈ drizzle.numbers, ReadsBack n := by
    rw [numbers]
    exact List.forall_mem_singleton.mpr half
  have operations : ∀ op ∈ drizzle.parts, op.IsTyped := by
    refine List.forall_mem_cons.mpr ⟨⟨nofun, ?_⟩, List.forall_mem_singleton.mpr ⟨nofun, nofun⟩⟩
    refine List.forall_mem_singleton.mpr (List.forall_mem_singleton.mpr ?_)
    exact (rfl : Path.parse "tick" = .ok ⟨"tick", .tick⟩)
  have target : drizzle.target.IsTyped := by
    refine ⟨?_, nofun⟩
    rintro n ⟨⟩
    decide
  have typed : drizzle.IsTyped := ⟨target, operations, ⟨by decide, by decide⟩, nofun⟩
  have later : drizzleLater.IsTyped :=
    ⟨by decide, nofun, by decide, nofun, nofun, by decide, operations⟩
  have legible : drizzleDraft.Legible := by
    have natural (n : Nat) (fits : n < twoTo 64) : (Json.ofNat n).Legible := .int fits
    simp [drizzleDraft, natural 3 (by decide), natural 5 (by decide), natural 20 (by decide),
      Legible.float half]
  have draft : read drizzleDraft.compact = .ok drizzle :=
    read_compact ⟨legible, rfl⟩ (by decide)
  refine ⟨documents_read_back.1 drizzle typed back (by decide),
    documents_read_back.2.1 drizzleLater later nofun (by decide), draft,
    documents_read_back.2.2 drizzleDraft.compact drizzle draft back (by decide)⟩

end Effect

end Grimoire
