import Grimoire.Proofs.Effect.Document

/-! # What reading an effect answers

Whatever the document is that an operation or a timing was read from, the answer is typed: its counts and
ticks are such, and its paths read what their texts stand for.  Each kind has a line here; the induction
is on the document, since an operation is read from the members of a record or the values of a list, and
those may be operations again.
-/

namespace Grimoire

open Json Record

variable {β γ : Type}

/-! ## Kinds -/

namespace Kind

variable {naming : Naming} {kinds : List (Kind β γ)} {tag : String} {json : β → Json}
  {P : γ → Prop}

theorem ofMembers_yields {members : List (String × β)}
    (h : ∀ kind ∈ kinds, (kind.read members).Yields P) {x : γ}
    (reads : ofMembers naming kinds tag json members = .ok x) : P x := by
  unfold ofMembers at reads
  split at reads
  · cases reads
  next kind found =>
    have listed : kind ∈ kinds := by
      unfold tag? at found
      split at found
      · exact mem_of_find? found
      · cases found
    exact h kind listed x (Placed.run_eq_ok_iff.mp reads)

theorem ofValues_yields {values : List β}
    (h : ∀ kind ∈ kinds, ∀ members, (∀ m ∈ members, m.2 ∈ values) → (kind.read members).Yields P)
    {x : γ} (reads : ofValues naming kinds json values = .ok x) : P x := by
  unfold ofValues at reads
  split at reads
  · cases reads
  next value values =>
    split at reads
    · cases reads
    next kind found =>
      refine h kind (mem_of_find? found) _ (fun m listed => ?_) x
        (Placed.finds_of_seqLeft (Placed.run_eq_ok_iff.mp reads))
      exact List.mem_cons_of_mem value (List.of_mem_zip listed).2

end Kind

theorem Json.Yields.ofKind {naming : Naming} {kinds : List (Kind Json γ)} {tag : String}
    {P : γ → Prop} (h : ∀ kind ∈ kinds, ∀ members, (kind.read members).Yields P) :
    Json.Yields (Kind.ofJson naming kinds tag) P := by
  refine .whole fun j x reads => ?_
  split at reads
  · exact Kind.ofMembers_yields (fun kind listed => h kind listed _) reads
  · exact Kind.ofValues_yields (fun kind listed members _ => h kind listed members) reads
  · cases reads

/-! ## Parts of actions -/

theorem Coordinates.ofJson_yields :
    Json.Yields ofJson fun c => ∀ x ∈ c.expressions, x.IsResolved := by
  refine .ofRecord fun members c found => ?_
  simp only [Placed.finds_seq, Placed.finds_map] at found
  obtain ⟨_, ⟨x, atX, rfl⟩, y, atY, rfl⟩ := found
  have resolved (name : String) : (required members name Expr.ofJson).Yields Expr.IsResolved :=
    required_yields fun m _ => Expr.ofJson_yields m.2
  simp [expressions, resolved "x" x atX, resolved "y" y atY]

theorem StackCount.ofJson_yields :
    Json.Yields ofJson fun c => ∀ x ∈ c.expressions, x.IsResolved := by
  intro j c reads
  unfold ofJson at reads
  split at reads
  · cases reads
    simp [expressions]
  · split at reads
    next e found =>
      cases reads
      simpa [expressions] using Expr.ofJson_yields j e found
    · cases reads

theorem Timing.ofJson_yields (naming : Naming) : Json.Yields (ofJson naming) IsTyped := by
  have tick (members : List (String × Json)) (name : String) :
      (required members name (asNat maxTick)).Yields (· ≤ maxTick) :=
    required_yields fun m _ => Json.Yields.nat maxTick m.2
  refine .ofKind fun kind listed members => ?_
  simp only [kinds, List.mem_cons, List.not_mem_nil, or_false] at listed
  obtain rfl | rfl | rfl := listed
  · rintro _ ⟨⟩
    trivial
  · exact (tick members "ticks").map fun _ le => le
  · exact ((tick members "interval").map (Q := fun f => ∀ duration ≤ maxTick, (f duration).IsTyped)
      fun _ first _ second => ⟨first, second⟩).seq (tick members "duration") fun _ h _ le => h _ le

/-! ## Actions -/

namespace Action

theorem kinds_yield : ∀ kind ∈ kinds, ∀ members,
    (kind.read members).Yields fun a => ∀ x ∈ a.expressions, x.IsResolved := by
  intro kind listed members a found
  have expression (name : String) (x) (h : (expression members name).Finds x) : x.IsResolved :=
    required_yields (fun m _ => Expr.ofJson_yields m.2) x h
  have optional (name : String) (o) (h : (expression? members name).Finds o) :
      ∀ x ∈ o.toList, x.IsResolved := fun x listed =>
    optional_yields (fun m _ => Expr.ofJson_yields.option m.2) (by simp) o h x
      (Option.mem_toList.mp listed)
  have orOne (name : String) (x) (h : (expressionOrOne members name).Finds x) : x.IsResolved :=
    optional_yields (fun m _ => Expr.ofJson_yields m.2) (by simp [Expr.IsResolved, Expr.paths]) x h
  have place (name : String) (o) (h : (coordinates? members name).Finds o) :
      ∀ x ∈ Coordinates.expressions? o, x.IsResolved := by
    have held := optional_yields (fun m _ => Coordinates.ofJson_yields.option m.2) (by simp) o h
    cases o with
    | none => exact List.forall_mem_nil _
    | some c => exact held c rfl
  simp only [kinds, List.mem_cons, List.not_mem_nil, or_false] at listed
  obtain rfl | rfl | rfl | rfl | rfl | rfl | rfl | rfl | rfl | rfl | rfl | rfl | rfl | rfl := listed
  all_goals simp only [Placed.finds_seq, Placed.finds_map] at found
  · obtain ⟨_, ⟨_, _, rfl⟩, amount, h, rfl⟩ := found
    exact List.forall_mem_singleton.mpr (expression _ amount h)
  · obtain ⟨amount, h, rfl⟩ := found
    exact List.forall_mem_singleton.mpr (expression _ amount h)
  · obtain ⟨_, ⟨_, ⟨_, _, rfl⟩, duration, hd, rfl⟩, count, hc, rfl⟩ := found
    exact List.forall_mem_append.mpr ⟨optional _ duration hd,
      List.forall_mem_singleton.mpr (orOne _ count hc)⟩
  · obtain ⟨_, ⟨_, _, rfl⟩, count, h, rfl⟩ := found
    exact optional_yields (fun m _ => StackCount.ofJson_yields m.2) (by simp [StackCount.expressions])
      count h
  · obtain ⟨_, ⟨_, ⟨_, _, rfl⟩, amount, ha, rfl⟩, duration, hd, rfl⟩ := found
    exact List.forall_mem_cons.mpr ⟨expression _ amount ha, optional _ duration hd⟩
  · obtain ⟨_, ⟨_, _, rfl⟩, value, h, rfl⟩ := found
    exact List.forall_mem_singleton.mpr (expression _ value h)
  · obtain ⟨destination, h, rfl⟩ := found
    exact member_yields (fun m _ => Coordinates.ofJson_yields m.2)
      (fun _ absent => absurd absent Placed.not_finds_fault) destination h
  iterate 2
    · obtain ⟨_, ⟨direction, hp, rfl⟩, distance, h, rfl⟩ := found
      exact List.forall_mem_append.mpr ⟨place _ direction hp,
        List.forall_mem_singleton.mpr (expression _ distance h)⟩
  iterate 2
    · obtain ⟨_, ⟨_, ⟨_, _, rfl⟩, count, hc, rfl⟩, point, hp, rfl⟩ := found
      exact List.forall_mem_cons.mpr ⟨orOne _ count hc, place _ point hp⟩
  · obtain ⟨_, ⟨_, _, rfl⟩, duration, h, rfl⟩ := found
    exact optional _ duration h
  · obtain ⟨_, ⟨_, _, rfl⟩, _, _, rfl⟩ := found
    exact List.forall_mem_nil _
  · obtain ⟨_, ⟨_, _, rfl⟩, payload, h, rfl⟩ := found
    have held := optional_yields (fun m _ => Expr.ofJson_yields.table m.2) (by simp) payload h
    exact List.forall_mem_map.mpr held

end Action

/-! ## Operations -/

namespace Operation

/-- Whether the counts of an operation itself are such, and its paths read what their texts stand
for. -/
structure IsTyped {α : Type} (op : Operation α) : Prop where
  counts : ∀ s ∈ op.selectors, ∀ n ∈ s.maxTargets, n ≤ maxCount
  resolved : ∀ x ∈ op.expressions, x.IsResolved

/-- Whether a member can be read as typed operations only. -/
def Part.IsTyped (part : Part) : Prop :=
  ∀ ops, part.operations = .ok ops → ∀ op ∈ partsAll ops, op.IsTyped

theorem isTyped_act {a : Action Float} (h : ∀ x ∈ a.expressions, x.IsResolved) :
    ∀ part ∈ (act a).parts, part.IsTyped :=
  List.forall_mem_singleton.mpr ⟨List.forall_mem_nil _, h⟩

theorem kinds_yield : ∀ kind ∈ kinds, ∀ parts, (∀ m ∈ parts, m.2.IsTyped) →
    (kind.read parts).Yields fun op => ∀ part ∈ op.parts, part.IsTyped := by
  intro kind listed parts typed op found
  have expression (name : String) (x) (h : (required parts name Part.expression).Finds x) :
      x.IsResolved :=
    required_yields (fun m _ => Expr.ofJson_yields m.2.json) x h
  have operations (name : String) (ops) (h : (required parts name Part.operations).Finds ops) :
      ∀ op ∈ partsAll ops, op.IsTyped :=
    required_yields (fun m listed => typed m listed) ops h
  rw [kinds, List.mem_append] at listed
  obtain action | other := listed
  · obtain ⟨kind, listed, rfl⟩ := List.mem_map.mp action
    obtain ⟨a, finds, rfl⟩ := Placed.finds_map.mp found
    exact isTyped_act (Action.kinds_yield kind listed _ a finds)
  simp only [List.mem_cons, List.not_mem_nil, or_false] at other
  obtain rfl | rfl | rfl | rfl | rfl := other
  all_goals simp only [Placed.finds_seq, Placed.finds_map] at found
  · obtain ⟨_, ⟨effectId, _, rfl⟩, newTarget, h, rfl⟩ := found
    have own := required_yields (fun m _ => Selector.ofJson_yields m.2.json) newTarget h
    exact List.forall_mem_singleton.mpr ⟨List.forall_mem_singleton.mpr own.count, own.resolved⟩
  · obtain ⟨effectId, _, rfl⟩ := found
    exact List.forall_mem_singleton.mpr ⟨List.forall_mem_nil _, List.forall_mem_nil _⟩
  · obtain ⟨_, ⟨_, ⟨condition, hc, rfl⟩, accepted, ha, rfl⟩, refused, hr, rfl⟩ := found
    have own : ∀ x ∈ [condition], x.IsResolved :=
      List.forall_mem_singleton.mpr (expression _ condition hc)
    cases refused with
    | none =>
        exact List.forall_mem_cons.mpr
          ⟨⟨List.forall_mem_nil _, own⟩, operations _ accepted ha⟩
    | some refused =>
        have others : ∀ op ∈ partsAll refused, op.IsTyped := by
          refine optional_yields (P := fun o => ∀ ops ∈ o, ∀ op ∈ partsAll ops, op.IsTyped)
            (fun m listed o reads ops held => ?_) (by simp) _ hr refused rfl
          unfold Part.operations? at reads
          split at reads
          · cases reads
            cases held
          · obtain ⟨ops', found, rfl⟩ := ok_of_map reads
            cases held
            exact typed m listed _ found
        exact List.forall_mem_cons.mpr ⟨⟨List.forall_mem_nil _, own⟩,
          List.forall_mem_append.mpr ⟨operations _ accepted ha, others⟩⟩
  · obtain ⟨_, ⟨times, ht, rfl⟩, body, hb, rfl⟩ := found
    exact List.forall_mem_cons.mpr ⟨⟨List.forall_mem_nil _,
      List.forall_mem_singleton.mpr (expression _ times ht)⟩, operations _ body hb⟩
  · obtain ⟨_, ⟨ticks, ht, rfl⟩, body, hb, rfl⟩ := found
    exact List.forall_mem_cons.mpr ⟨⟨List.forall_mem_nil _,
      List.forall_mem_singleton.mpr (expression _ ticks ht)⟩, operations _ body hb⟩

mutual

theorem isTyped_of_ofJson : ∀ {j : Json} {naming : Naming} {op : Operation Float},
    ofJson j naming = .ok op → ∀ part ∈ op.parts, part.IsTyped
  | .record members, naming, op, reads => by
      rw [ofJson] at reads
      exact Kind.ofMembers_yields
        (fun kind listed => kinds_yield kind listed _ (isTyped_ofMembers members)) reads
  | .list values, naming, op, reads => by
      rw [ofJson] at reads
      exact Kind.ofValues_yields (fun kind listed parts within => kinds_yield kind listed parts
        fun m member => isTyped_ofValues values m.2 (within m member)) reads
  | .null, _, _, reads | .bool _, _, _, reads | .int _, _, _, reads | .float _, _, _, reads
  | .text _, _, _, reads | .flaw _, _, _, reads => by
      rw [ofJson] at reads
      cases reads

theorem isTyped_of_ofList : ∀ {j : Json} {ops : List (Operation Float)},
    ofList j = .ok ops → ∀ op ∈ partsAll ops, op.IsTyped
  | .list items, ops, reads => by
      rw [ofList] at reads
      exact isTyped_of_ofItems items reads
  | .null, _, reads | .bool _, _, reads | .int _, _, reads | .float _, _, reads
  | .text _, _, reads | .record _, _, reads | .flaw _, _, reads => by
      rw [ofList] at reads
      cases reads

theorem isTyped_of_ofItems : ∀ (items : List Json) {ops : List (Operation Float)},
    ofItems items = .ok ops → ∀ op ∈ partsAll ops, op.IsTyped
  | [], ops, reads => by
      rw [ofItems] at reads
      cases reads
      exact List.forall_mem_nil _
  | j :: js, ops, reads => by
      rw [ofItems] at reads
      obtain ⟨op, first, reads⟩ := ok_of_bind reads
      obtain ⟨others, later, reads⟩ := ok_of_bind reads
      cases reads
      exact List.forall_mem_append.mpr ⟨isTyped_of_ofJson first, isTyped_of_ofItems js later⟩

theorem isTyped_ofMembers : ∀ members : List (String × Json),
    ∀ m ∈ ofMembers members, m.2.IsTyped
  | [] => by
      rw [ofMembers]
      exact List.forall_mem_nil _
  | (name, j) :: rest => by
      rw [ofMembers]
      exact List.forall_mem_cons.mpr ⟨fun ops reads => isTyped_of_ofList reads,
        isTyped_ofMembers rest⟩

theorem isTyped_ofValues : ∀ values : List Json, ∀ part ∈ ofValues values, part.IsTyped
  | [] => by
      rw [ofValues]
      exact List.forall_mem_nil _
  | j :: rest => by
      rw [ofValues]
      exact List.forall_mem_cons.mpr ⟨fun ops reads => isTyped_of_ofList reads,
        isTyped_ofValues rest⟩

end

theorem ofNamed_yields : Json.Yields ofNamed fun op => ∀ part ∈ op.parts, part.IsTyped :=
  Json.Yields.whole fun _ _ reads => isTyped_of_ofJson reads

end Operation

end Grimoire
