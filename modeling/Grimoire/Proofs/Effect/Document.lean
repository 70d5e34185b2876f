import Grimoire.Proofs.Target.Document

/-! # Effects and their documents

An effect is read back from what it is written as.  Every member that is written has a rule in
`Json.Spells`, and every kind of action and operation is the one that its name says; the induction is on
the nested operations.  An operation is read by the same rules whether it is part of what is held as a
whole or not, except that the former may say its kind by a place as well, so what is shown is shown for
both ways.
-/

namespace Grimoire

open Json Record

theorem maxTick_lt : maxTick < twoTo 64 := by decide

/-! ## Parts of actions -/

namespace Coordinates

variable {c : Coordinates Float}

theorem spells (h : ∀ x ∈ c.expressions, x.IsKept) : Spells ofJson c.toJson c := by
  have x := Expr.spells (h c.x (by simp [expressions]))
  have y := Expr.spells (h c.y (by simp [expressions]))
  exact .ofRecord (by simp [x.legible, y.legible])
    (((required_finds ⟨_, rfl⟩ x.reads).map mk).seq (required_finds ⟨_, rfl⟩ y.reads))

theorem spells_option {o : Option (Coordinates Float)} (h : ∀ x ∈ expressions? o, x.IsKept) :
    Spells (asOption ofJson) (.ofOption toJson o) o := by
  refine .option (fun c held => spells ?_) fun c _ => nofun
  cases held
  exact h

end Coordinates

namespace StackCount

theorem isAll_toJson {e : Expr Float} (h : e.IsKept) : isAll e.toJson = false := by
  cases e with
  | number x =>
      rw [Expr.toJson, Expr.ofFloat_eq_float (h.back x List.mem_cons_self)]
      rfl
  | path p =>
      have resolved : Path.parse p.raw = .ok p := h.resolved p List.mem_cons_self
      rw [Expr.toJson, isAll]
      · intro word
        have unknown : Path.parse "all" = .error .unknownRoot := rfl
        rw [Json.text.inj word, unknown] at resolved
        cases resolved
      · nofun
  | bool b => rfl
  | text s => rfl
  | binary op l r => rfl
  | unary op e => rfl
  | call function args => rfl

theorem spells {c : StackCount Float} (h : ∀ x ∈ c.expressions, x.IsKept) :
    Spells ofJson c.toJson c := by
  cases c with
  | all => exact ⟨.text "all", rfl⟩
  | count e =>
      have kept := h e (by simp [expressions])
      have spelled := Expr.spells kept
      refine ⟨spelled.legible, ?_⟩
      rw [toJson, ofJson, isAll_toJson kept, spelled.reads]
      rfl

end StackCount

namespace Timing

def IsTyped : Timing → Prop
  | immediate => True
  | delayed ticks => ticks ≤ maxTick
  | periodic interval duration => interval ≤ maxTick ∧ duration ≤ maxTick

theorem spells {t : Timing} (h : t.IsTyped) (naming : Naming) : Spells (ofJson naming) t.toJson t := by
  cases t with
  | immediate => exact .ofKind (by simp) ⟨_, rfl⟩ rfl rfl
  | delayed ticks =>
      have ticks := Spells.nat h maxTick_lt
      exact .ofKind (by simp [ticks.legible]) ⟨_, rfl⟩ rfl
        ((required_finds ⟨_, rfl⟩ ticks.reads).map delayed)
  | periodic interval duration =>
      have interval := Spells.nat h.1 maxTick_lt
      have duration := Spells.nat h.2 maxTick_lt
      exact .ofKind (by simp [interval.legible, duration.legible]) ⟨_, rfl⟩ rfl
        (((required_finds ⟨_, rfl⟩ interval.reads).map periodic).seq
          (required_finds ⟨_, rfl⟩ duration.reads))

end Timing

/-! ## Actions -/

namespace Action

/-- An action is of the kind that its name says, and that kind finds it among its members. -/
theorem spells {a : Action Float} (h : ∀ x ∈ a.expressions, x.IsKept) :
    ∃ kind, Kind.find? .name kinds (.text a.name) = some kind ∧
      (∀ m ∈ a.toMembers, m.2.Legible) ∧
      (kind.read (("op", .text a.name) :: a.toMembers)).Finds a := by
  cases a with
  | dealDamage damageType amount =>
      have amount := Expr.spells (h amount (by simp [expressions]))
      exact ⟨_, rfl, by simp [toMembers, amount.legible],
        ((required_finds ⟨_, rfl⟩ (Spells.text damageType).reads).map dealDamage).seq
          (required_finds ⟨_, rfl⟩ amount.reads)⟩
  | heal amount =>
      have amount := Expr.spells (h amount (by simp [expressions]))
      exact ⟨_, rfl, by simp [toMembers, amount.legible],
        (required_finds ⟨_, rfl⟩ amount.reads).map heal⟩
  | applyStatus status duration count =>
      have duration := Expr.spells_option (o := duration) fun x held => h x (by
        simp [expressions, Option.mem_toList.mpr held])
      have count := Expr.spells (h count (by simp [expressions]))
      exact ⟨_, rfl, by simp [toMembers, duration.legible, count.legible],
        (((required_finds ⟨_, rfl⟩ (Spells.text status).reads).map applyStatus).seq
          (optional_finds ⟨_, rfl⟩ duration.reads)).seq (optional_finds ⟨_, rfl⟩ count.reads)⟩
  | removeStatus status count =>
      have count := StackCount.spells (c := count) h
      exact ⟨_, rfl, by simp [toMembers, count.legible],
        ((required_finds ⟨_, rfl⟩ (Spells.text status).reads).map removeStatus).seq
          (optional_finds ⟨_, rfl⟩ count.reads)⟩
  | modifyStat stat amount duration =>
      have amount := Expr.spells (h amount (by simp [expressions]))
      have duration := Expr.spells_option (o := duration) fun x held => h x (by
        simp [expressions, Option.mem_toList.mpr held])
      exact ⟨_, rfl, by simp [toMembers, amount.legible, duration.legible],
        (((required_finds ⟨_, rfl⟩ (Spells.text stat).reads).map modifyStat).seq
          (required_finds ⟨_, rfl⟩ amount.reads)).seq (optional_finds ⟨_, rfl⟩ duration.reads)⟩
  | setStat stat value =>
      have value := Expr.spells (h value (by simp [expressions]))
      exact ⟨_, rfl, by simp [toMembers, value.legible],
        ((required_finds ⟨_, rfl⟩ (Spells.text stat).reads).map setStat).seq
          (required_finds ⟨_, rfl⟩ value.reads)⟩
  | teleport destination =>
      have destination := Coordinates.spells (c := destination) h
      exact ⟨_, rfl, by simp [toMembers, destination.legible],
        (member_finds ⟨_, rfl⟩ destination.reads).map teleport⟩
  | push direction distance =>
      have direction := Coordinates.spells_option (o := direction) fun x listed =>
        h x (by simp [expressions, listed])
      have distance := Expr.spells (h distance (by simp [expressions]))
      exact ⟨_, rfl, by simp [toMembers, direction.legible, distance.legible],
        ((optional_finds ⟨_, rfl⟩ direction.reads).map push).seq
          (required_finds ⟨_, rfl⟩ distance.reads)⟩
  | pull toward distance =>
      have toward := Coordinates.spells_option (o := toward) fun x listed =>
        h x (by simp [expressions, listed])
      have distance := Expr.spells (h distance (by simp [expressions]))
      exact ⟨_, rfl, by simp [toMembers, toward.legible, distance.legible],
        ((optional_finds ⟨_, rfl⟩ toward.reads).map pull).seq
          (required_finds ⟨_, rfl⟩ distance.reads)⟩
  | spawnEntity entityType count place =>
      have count := Expr.spells (h count (by simp [expressions]))
      have place := Coordinates.spells_option (o := place) fun x listed =>
        h x (by simp [expressions, listed])
      exact ⟨_, rfl, by simp [toMembers, count.legible, place.legible],
        (((required_finds ⟨_, rfl⟩ (Spells.text entityType).reads).map spawnEntity).seq
          (optional_finds ⟨_, rfl⟩ count.reads)).seq (optional_finds ⟨_, rfl⟩ place.reads)⟩
  | spawnItem itemId count place =>
      have count := Expr.spells (h count (by simp [expressions]))
      have place := Coordinates.spells_option (o := place) fun x listed =>
        h x (by simp [expressions, listed])
      exact ⟨_, rfl, by simp [toMembers, count.legible, place.legible],
        (((required_finds ⟨_, rfl⟩ (Spells.text itemId).reads).map spawnItem).seq
          (optional_finds ⟨_, rfl⟩ count.reads)).seq (optional_finds ⟨_, rfl⟩ place.reads)⟩
  | transformEntity toType duration =>
      have duration := Expr.spells_option (o := duration) fun x held => h x (by
        simp [expressions, Option.mem_toList.mpr held])
      exact ⟨_, rfl, by simp [toMembers, duration.legible],
        ((required_finds ⟨_, rfl⟩ (Spells.text toType).reads).map transformEntity).seq
          (optional_finds ⟨_, rfl⟩ duration.reads)⟩
  | transformMaterial source result =>
      exact ⟨_, rfl, by simp [toMembers],
        ((required_finds ⟨_, rfl⟩ (Spells.text source).reads).map transformMaterial).seq
          (required_finds ⟨_, rfl⟩ (Spells.text result).reads)⟩
  | emitEvent eventType payload =>
      have table : Spells (asTable Expr.ofJson) (ofTable Expr.toJson payload) payload :=
        .table fun entry listed => Expr.spells (h entry.2 (List.mem_map_of_mem listed))
      exact ⟨_, rfl, by simp [toMembers, table.legible],
        ((required_finds ⟨_, rfl⟩ (Spells.text eventType).reads).map emitEvent).seq
          (optional_finds ⟨_, rfl⟩ table.reads)⟩

theorem once_op (a : Action Float) :
    Once ["op"] (("op", .text a.name) :: a.toMembers) (.text a.name) := by
  cases a <;> exact ⟨_, rfl⟩

end Action

/-! ## Operations -/

namespace Operation

/-- Whether nothing in an operation itself is lost when it is written. -/
structure IsKept (op : Operation Float) : Prop where
  expressions : ∀ x ∈ op.expressions, x.IsKept
  selectors : ∀ s ∈ op.selectors, s.IsKept

theorem ofMembers_eq : ∀ members : List (String × Json),
    ofMembers members = members.map fun (name, j) => (name, ⟨j, ofList j⟩)
  | [] => rfl
  | (name, j) :: rest => by rw [ofMembers, ofMembers_eq rest, List.map_cons]

variable {naming : Naming} {name : String} {members : List (String × Json)} {value : Json}
  {op : Operation Float}

theorem ofJson_record {kind : Kind Part (Operation Float)} (once : Once ["op"] members (.text name))
    (found : Kind.find? naming kinds (.text name) = some kind)
    (h : (kind.read (ofMembers members)).Finds op) : ofJson (.record members) naming = .ok op := by
  have tagged := once.map fun j => (⟨j, ofList j⟩ : Part)
  rw [← ofMembers_eq] at tagged
  rw [ofJson]
  exact Kind.ofMembers_eq_ok Part.json tagged found h

theorem once_ofMembers {names : List String} (once : Once names members value) :
    Once names (ofMembers members) ⟨value, ofList value⟩ := by
  rw [ofMembers_eq]
  exact once.map fun j => (⟨j, ofList j⟩ : Part)

theorem find?_ofAction {kind : Kind Json (Action Float)}
    (h : Kind.find? .name Action.kinds (.text name) = some kind) :
    Kind.find? naming kinds (.text name) = some (ofAction kind) := by
  have actions : Action.kinds.find? (fun kind => kind.names.contains name) = some kind := h
  change kinds.find? (fun kind => kind.names.contains name) = _
  have same : (fun kind : Kind Part (Operation Float) => kind.names.contains name) ∘ ofAction
      = fun kind => kind.names.contains name := rfl
  rw [kinds, List.find?_append, List.find?_map, same, actions]
  rfl

theorem spells_act {a : Action Float} (h : ∀ x ∈ a.expressions, x.IsKept) :
    Spells (ofJson · naming) a.toJson (act a) := by
  obtain ⟨kind, found, legible, finds⟩ := Action.spells h
  refine ⟨.record (List.forall_mem_cons.mpr ⟨.text a.name, legible⟩),
    ofJson_record a.once_op (find?_ofAction found) ?_⟩
  refine Placed.Finds.map ?_ act
  convert finds
  rw [ofMembers_eq, List.map_map]
  exact List.map_id _

mutual

/-- An operation is read back from what it is written as, whichever way kinds may be said. -/
theorem spells (naming : Naming) : ∀ {op : Operation Float}, (∀ part ∈ op.parts, part.IsKept) →
    Spells (ofJson · naming) op.toJson op
  | act a, h => by
      rw [toJson]
      exact spells_act (h _ List.mem_cons_self).expressions
  | chain effectId newTarget, h => by
      have own := h _ List.mem_cons_self
      have newTarget := Selector.spells (own.selectors newTarget List.mem_cons_self) own.expressions
      rw [toJson]
      exact ⟨.record (by simp [newTarget.legible]), ofJson_record ⟨_, rfl⟩ rfl
        (((required_finds (once_ofMembers ⟨_, rfl⟩) (Spells.text effectId).reads).map chain).seq
          (required_finds (once_ofMembers ⟨_, rfl⟩) newTarget.reads))⟩
  | trigger effectId, _ => by
      rw [toJson]
      exact ⟨.record (by simp), ofJson_record ⟨_, rfl⟩ rfl
        ((required_finds (once_ofMembers ⟨_, rfl⟩) (Spells.text effectId).reads).map trigger)⟩
  | conditional condition accepted none, h => by
      obtain ⟨own, first⟩ := List.forall_mem_cons.mp h
      have condition := Expr.spells (own.expressions condition List.mem_cons_self)
      have accepted := spells_list first
      rw [toJson]
      exact ⟨.record (by simp [condition.legible, accepted.legible]),
        ofJson_record ⟨_, rfl⟩ rfl
          ((((required_finds (once_ofMembers ⟨_, rfl⟩) condition.reads).map conditional).seq
            (required_finds (once_ofMembers ⟨_, rfl⟩) accepted.reads)).seq
            (optional_finds (once_ofMembers ⟨_, rfl⟩) rfl))⟩
  | conditional condition accepted (some refused), h => by
      obtain ⟨own, both⟩ := List.forall_mem_cons.mp h
      obtain ⟨first, second⟩ := List.forall_mem_append.mp both
      have condition := Expr.spells (own.expressions condition List.mem_cons_self)
      have accepted := spells_list first
      have others := spells_list second
      have reads : Part.operations? ⟨.list (toJsonAll refused), ofList (.list (toJsonAll refused))⟩
          = .ok (some refused) := congrArg (Except.map some) others.reads
      rw [toJson]
      exact ⟨.record (by
          simp [condition.legible, accepted.legible, others.legible]),
        ofJson_record ⟨_, rfl⟩ rfl
          ((((required_finds (once_ofMembers ⟨_, rfl⟩) condition.reads).map conditional).seq
            (required_finds (once_ofMembers ⟨_, rfl⟩) accepted.reads)).seq
            (optional_finds (once_ofMembers ⟨_, rfl⟩) reads))⟩
  | iterate times body, h => by
      obtain ⟨own, inner⟩ := List.forall_mem_cons.mp h
      have times := Expr.spells (own.expressions times List.mem_cons_self)
      have body := spells_list inner
      rw [toJson]
      exact ⟨.record (by simp [times.legible, body.legible]),
        ofJson_record ⟨_, rfl⟩ rfl
          (((required_finds (once_ofMembers ⟨_, rfl⟩) times.reads).map iterate).seq
            (required_finds (once_ofMembers ⟨_, rfl⟩) body.reads))⟩
  | delay ticks body, h => by
      obtain ⟨own, inner⟩ := List.forall_mem_cons.mp h
      have ticks := Expr.spells (own.expressions ticks List.mem_cons_self)
      have body := spells_list inner
      rw [toJson]
      exact ⟨.record (by simp [ticks.legible, body.legible]),
        ofJson_record ⟨_, rfl⟩ rfl
          (((required_finds (once_ofMembers ⟨_, rfl⟩) ticks.reads).map delay).seq
            (required_finds (once_ofMembers ⟨_, rfl⟩) body.reads))⟩

theorem spells_list : ∀ {ops : List (Operation Float)}, (∀ part ∈ partsAll ops, part.IsKept) →
    Spells ofList (.list (toJsonAll ops)) ops
  | [], _ => ⟨.list (by simp [toJsonAll]), by rw [ofList]; rfl⟩
  | op :: ops, h => by
      obtain ⟨first, others⟩ := List.forall_mem_append.mp h
      have head := spells .nameOrPlace first
      have tail := spells_list others
      have reads : ofItems (toJsonAll ops) = .ok ops := by
        rw [← ofList]
        exact tail.reads
      refine ⟨.list fun j listed => ?_, ?_⟩
      · rw [toJsonAll] at listed
        obtain rfl | later := List.mem_cons.mp listed
        · exact head.legible
        · cases tail.legible with
          | list each => exact each j later
      · rw [ofList, toJsonAll, ofItems, head.reads, reads]
        rfl

end

end Operation

end Grimoire
