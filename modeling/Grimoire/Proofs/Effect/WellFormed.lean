import Grimoire.Proofs.Effect.Rules
import Grimoire.Proofs.Settings.Identifier

/-! # What the static check accepts

An effect is well formed if everything in it is, however deep it lies and whether or not it is ever run:
its names are known, its numbers are in their domains, its lists have something in them, and its sizes
and times make sense.  The static check accepts exactly these effects.  Of any other effect it reports the
first rule that is broken, in the order of the document: the id, the selector, the timing, then the
operations, every one of them before the operations in it, and those before the operation that follows.
-/

namespace Grimoire

variable {α : Type} [Scalar α]

/-! ## Well-formed effects -/

/-- Whether a selector has sizes and names what could be. -/
structure Selector.WellFormed (s : Selector α) : Prop where
  sizes : ∀ p ∈ s.shape.parameters, Shape.Measures p.2
  names : ∀ f, s.filter = some f →
    ∀ name ∈ f.entityTypes ++ f.factions ++ f.components, Identifier.isValid name = true

/-- Whether an operation is well formed, apart from the operations in it. -/
structure Operation.WellFormed (v : Vocabulary) (op : Operation α) : Prop where
  mentions : ∀ m ∈ op.mentions, m.Admitted v
  parameters : ∀ p ∈ op.parameters, p.Allowed
  selectors : ∀ s ∈ op.selectors, s.WellFormed
  bodies : ∀ ops ∈ op.bodies, ops ≠ []

structure Effect.WellFormed (v : Vocabulary) (e : Effect α) : Prop where
  id : ∀ id, e.id = some id → Identifier.isValid id = true
  timing : ∀ interval duration, e.timing = .periodic interval duration →
    1 ≤ interval ∧ interval ≤ duration
  target : e.target.WellFormed
  operations : e.operations ≠ []
  parts : ∀ op ∈ e.parts, op.WellFormed v

/-! ## Checks of names and numbers -/

section

variable {v : Vocabulary}

theorem Domain.allows_iff {d : Domain} {x : α} : d.allows x = true ↔ d.Admits x := by
  unfold allows Admits
  cases d <;> simp

namespace Verdict

theorem identifier (what name : String) :
    Verdict v [(.mention (.identifier what name) : Rule α)] (Vocabulary.checkIdentifier what name) := by
  unfold Vocabulary.checkIdentifier
  cases rejected : Identifier.rejection? name with
  | some r => exact breaks (.identifier rejected)
  | none => exact holds (Identifier.isValid_iff.mpr rejected)

theorem listed {l : Lexicon} {name unknown : String} {refuse : String → Fault} {known : Bool}
    (malformed : ∀ r, l.malformed name r = refuse r.message)
    (unlisted : l.unlisted name = refuse unknown) (lists : known = true ↔ v.Lists l name) :
    Verdict v [(.mention (.listed l name) : Rule α)]
      (Vocabulary.checkName refuse unknown known name) := by
  unfold Vocabulary.checkName
  cases rejected : Identifier.rejection? name with
  | some r =>
      have broken := Rule.Breaks.malformed (α := α) (v := v) (l := l) rejected
      rw [malformed] at broken
      exact breaks broken
  | none =>
      have valid := Identifier.isValid_iff.mpr rejected
      cases known with
      | true => exact holds ⟨valid, lists.mp rfl⟩
      | false =>
          have broken := Rule.Breaks.unlisted (α := α) valid fun listed => nomatch lists.mpr listed
          rw [unlisted] at broken
          exact breaks broken

theorem stat (name : String) :
    Verdict v [(.mention (.listed .stat name) : Rule α)] (Vocabulary.checkStat name) :=
  listed (fun _ => rfl) rfl List.contains_iff_mem

theorem status (name : String) :
    Verdict v [(.mention (.listed .status name) : Rule α)] (v.checkStatus name) :=
  listed (fun _ => rfl) rfl Std.ExtTreeSet.mem_iff_contains.symm

theorem entityType (name : String) :
    Verdict v [(.mention (.listed .entityType name) : Rule α)] (v.checkEntityType name) :=
  listed (fun _ => rfl) rfl Std.ExtTreeSet.mem_iff_contains.symm

theorem item (name : String) :
    Verdict v [(.mention (.listed .item name) : Rule α)] (v.checkItem name) :=
  listed (fun _ => rfl) rfl Std.ExtTreeSet.mem_iff_contains.symm

theorem material (name : String) :
    Verdict v [(.mention (.listed .material name) : Rule α)] (v.checkMaterial name) :=
  listed (fun _ => rfl) rfl Std.ExtTreeSet.mem_iff_contains.symm

theorem damageType (name : String) :
    Verdict v [(.mention (.listed .damageType name) : Rule α)] (v.checkDamageType name) := by
  unfold Vocabulary.checkDamageType Vocabulary.checkIdentifier
  cases rejected : Identifier.rejection? name with
  | some r => exact breaks (.malformed rejected)
  | none =>
      have valid := Identifier.isValid_iff.mpr rejected
      by_cases known : v.damageTypes.contains name = true
      · simp only [if_pos known]
        exact holds ⟨valid, Std.ExtTreeSet.mem_iff_contains.mpr known⟩
      · simp only [if_neg known]
        exact breaks (.unlisted valid fun listed => known (Std.ExtTreeSet.mem_iff_contains.mp listed))

theorem amount (operation name : String) (d : Domain) (e : Expr α) :
    Verdict v [.parameter operation (.amount name d e)] (e.checkParameter operation name d) := by
  cases e with
  | number x =>
      simp only [Expr.checkParameter, Expr.literal?]
      split
      · next allowed => exact holds fun y same => by cases same; exact Domain.allows_iff.mp allowed
      · next outside => exact breaks (.amount (mt Domain.allows_iff.mpr outside))
  | _ => exact holds fun y same => nomatch same

theorem duration (operation : String) (e : Option (Expr α)) :
    Verdict v ((e.toList.map (Parameter.amount "duration" .nonNegative)).map (.parameter operation))
      (Expr.checkOptional operation "duration" .nonNegative e) := by
  cases e with
  | none => exact nil
  | some e => exact amount ..

theorem coordinate (operation : String) (e : Expr α) :
    Verdict v [.parameter operation (.coordinate e)] (e.checkCoordinate operation) := by
  cases e with
  | number x =>
      simp only [Expr.checkCoordinate, Expr.literal?]
      split
      · next finite => exact holds fun y same => by cases same; exact finite
      · next infinite => exact breaks (.coordinate (eq_false_of_ne_true infinite))
  | _ => exact holds fun y same => nomatch same

theorem point (operation : String) (p : Coordinates α) :
    Verdict v ((p.expressions.map Parameter.coordinate).map (.parameter operation))
      (p.check operation) :=
  (coordinate operation p.x).cons (coordinate operation p.y)

theorem place (operation : String) (p : Option (Coordinates α)) :
    Verdict v (((Coordinates.expressions? p).map Parameter.coordinate).map (.parameter operation))
      (Coordinates.checkOptional operation p) := by
  cases p with
  | none => exact nil
  | some p => exact point operation p

/-! ## Checks of what effects are made of -/

theorem shape (s : Shape α) : Verdict v (s.parameters.map fun p => .shape p.1 p.2) s.check := by
  have measures (p : String × α) : Shape.isParameter p.2 = true ↔ Shape.Measures p.2 := by
    simp [Shape.isParameter, Shape.Measures]
  unfold Shape.check
  cases found : s.parameters.find? fun p => !Shape.isParameter p.2 with
  | none =>
      refine accepts fun r listed => ?_
      obtain ⟨p, own, rfl⟩ := List.mem_map.mp listed
      exact (measures p).mp (by simpa using List.find?_eq_none.mp found p own)
  | some p =>
      obtain ⟨outside, before, after, split, kept⟩ := List.find?_eq_some_iff_append.mp found
      rw [split, List.map_append, List.map_cons]
      refine refuses _ (fun r listed => ?_) (.shape fun size => ?_)
      · obtain ⟨p', own, rfl⟩ := List.mem_map.mp listed
        exact (measures p').mp (by simpa using kept p' own)
      · rw [(measures p).mpr size] at outside
        cases outside

theorem selector (s : Selector α) : Verdict v s.rules s.check := by
  unfold Selector.rules Selector.check
  refine (shape s.shape).append ?_
  cases s.filter with
  | none => exact nil
  | some f =>
      exact (forM (identifier _) f.entityTypes).append
        ((forM (identifier _) f.factions).append (forM (identifier _) f.components))

theorem timing (t : Timing) : Verdict v (t.rules : List (Rule α)) t.check := by
  cases t with
  | immediate | delayed => exact nil
  | periodic interval duration =>
      simp only [Timing.check]
      split
      · next zero =>
          subst zero
          exact breaks .interval
      · next nonzero =>
          have first : Verdict v [(.interval interval : Rule α)] (.ok ()) :=
            holds (Nat.one_le_iff_ne_zero.mpr nonzero)
          split
          · next short => exact first.append (breaks (.duration short))
          · next fits => exact first.append (holds (Nat.le_of_not_lt fits))

theorem action (a : Action α) : Verdict v a.rules (a.check v) := by
  cases a with
  | dealDamage damageType amount => exact (Verdict.damageType damageType).cons (Verdict.amount ..)
  | heal amount => exact Verdict.amount ..
  | applyStatus status duration count =>
      exact (Verdict.status status).cons ((Verdict.amount ..).cons (Verdict.duration ..))
  | removeStatus status count =>
      refine (Verdict.status status).cons ?_
      cases count with
      | all => exact nil
      | count e => exact amount ..
  | modifyStat stat amount duration =>
      exact (Verdict.stat stat).cons ((Verdict.amount ..).cons (Verdict.duration ..))
  | setStat stat value => exact (Verdict.stat stat).cons (amount ..)
  | teleport destination => exact point ..
  | push direction distance | pull direction distance =>
      unfold Action.rules Action.parameters
      rw [List.map_append]
      exact (place ..).append (amount ..)
  | spawnEntity entityType count place =>
      exact (Verdict.entityType entityType).cons ((amount ..).cons (Verdict.place ..))
  | spawnItem itemId count place =>
      exact (item itemId).cons ((amount ..).cons (Verdict.place ..))
  | transformEntity toType duration => exact (entityType toType).cons (Verdict.duration ..)
  | transformMaterial source result => exact (material source).cons (material result)
  | emitEvent eventType payload =>
      unfold Action.rules Action.mentions Action.parameters
      rw [List.map_cons, List.map_map, List.map_nil, List.append_nil]
      exact (identifier ..).cons (forM (identifier _) payload.keys)

theorem nonempty (name : String) (ops : List (Operation α)) :
    Verdict v [.list name ops] (Operation.checkNonempty name ops) := by
  cases ops with
  | nil => exact breaks (.list name)
  | cons op ops => exact holds (List.cons_ne_nil op ops)

mutual

theorem operation : ∀ op : Operation α, Verdict v op.rules (op.check v)
  | .act a => by
      unfold Operation.rules Operation.check
      exact action a
  | .chain effectId newTarget => by
      unfold Operation.rules Operation.check
      exact (identifier ..).cons (selector newTarget)
  | .trigger effectId => by
      unfold Operation.rules Operation.check
      exact identifier ..
  | .conditional condition accepted none => by
      unfold Operation.rules Operation.check
      have accepts := (operations accepted).append nil
      rw [List.append_nil] at accepts
      exact (nonempty ..).cons accepts
  | .conditional condition accepted (some refused) => by
      unfold Operation.rules Operation.check
      exact (nonempty ..).cons
        ((operations accepted).append ((nonempty ..).cons (operations refused)))
  | .iterate times body => by
      unfold Operation.rules Operation.check
      exact (amount ..).cons ((nonempty ..).cons (operations body))
  | .delay ticks body => by
      unfold Operation.rules Operation.check
      exact (amount ..).cons ((nonempty ..).cons (operations body))

theorem operations : ∀ ops : List (Operation α),
    Verdict v (Operation.rulesAll ops) (Operation.checkAll v ops)
  | [] => by
      unfold Operation.rulesAll Operation.checkAll
      exact nil
  | op :: ops => by
      unfold Operation.rulesAll Operation.checkAll
      exact (operation op).append (operations ops)

end

theorem effect (e : Effect α) : Verdict v e.rules (e.check v) := by
  unfold Effect.rules Effect.check
  have rest := (selector (v := v) e.target).append ((timing e.timing).append
    ((nonempty "operations" e.operations).cons (operations e.operations)))
  cases e.id with
  | none => exact rest
  | some id => exact (identifier ..).cons rest

end Verdict

/-! ## Rules and well-formedness -/

theorem Selector.rules_hold_iff {s : Selector α} :
    (∀ r ∈ s.rules, r.Holds v) ↔ s.WellFormed := by
  have sizes : (∀ r ∈ s.shape.parameters.map fun p => (.shape p.1 p.2 : Rule α), r.Holds v) ↔
      ∀ p ∈ s.shape.parameters, Shape.Measures p.2 := List.forall_mem_map
  have names (what : String) (names : List String) :
      (∀ r ∈ names.map fun n => (.mention (.identifier what n) : Rule α), r.Holds v) ↔
        ∀ name ∈ names, Identifier.isValid name = true := List.forall_mem_map
  unfold rules
  rw [List.forall_mem_append, sizes]
  cases filter : s.filter with
  | none =>
      refine ⟨fun held => ⟨held.1, fun f found => ?_⟩, fun formed => ⟨formed.sizes, ?_⟩⟩
      · rw [filter] at found
        cases found
      · exact fun r listed => absurd listed List.not_mem_nil
  | some f =>
      simp only [List.forall_mem_append, names]
      refine ⟨fun ⟨measured, types, factions, components⟩ => ⟨measured, fun f' found => ?_⟩,
        fun formed => ⟨formed.sizes, ?_⟩⟩
      · rw [filter] at found
        cases found
        exact List.forall_mem_append.mpr ⟨List.forall_mem_append.mpr ⟨types, factions⟩, components⟩
      · obtain ⟨others, components⟩ := List.forall_mem_append.mp (formed.names f filter)
        obtain ⟨types, factions⟩ := List.forall_mem_append.mp others
        exact ⟨types, factions, components⟩

theorem Action.rules_hold_iff {a : Action α} :
    (∀ r ∈ a.rules, r.Holds v) ↔ (Operation.act a).WellFormed v := by
  unfold rules
  rw [List.forall_mem_append, List.forall_mem_map, List.forall_mem_map]
  exact ⟨fun ⟨mentions, parameters⟩ => ⟨mentions, parameters, nofun, nofun⟩,
    fun formed => ⟨formed.mentions, formed.parameters⟩⟩

namespace Operation

mutual

theorem rules_hold_iff : ∀ {op : Operation α},
    (∀ r ∈ op.rules, r.Holds v) ↔ ∀ part ∈ op.parts, part.WellFormed v
  | .act a => by
      unfold rules parts
      rw [List.forall_mem_singleton]
      exact Action.rules_hold_iff
  | .chain effectId newTarget => by
      unfold rules parts
      rw [List.forall_mem_cons, Selector.rules_hold_iff, List.forall_mem_singleton]
      exact ⟨fun ⟨named, selector⟩ => ⟨List.forall_mem_singleton.mpr named, nofun,
          List.forall_mem_singleton.mpr selector, nofun⟩,
        fun formed => ⟨formed.mentions _ List.mem_cons_self,
          formed.selectors _ List.mem_cons_self⟩⟩
  | .trigger effectId => by
      unfold rules parts
      rw [List.forall_mem_singleton, List.forall_mem_singleton]
      exact ⟨fun named => ⟨List.forall_mem_singleton.mpr named, nofun, nofun, nofun⟩,
        fun formed => formed.mentions _ List.mem_cons_self⟩
  | .conditional condition accepted none => by
      unfold rules parts
      rw [List.forall_mem_cons, List.forall_mem_cons, rulesAll_hold_iff]
      refine and_congr_left fun _ => ?_
      exact ⟨fun filled => ⟨nofun, nofun, nofun, List.forall_mem_singleton.mpr filled⟩,
        fun formed => formed.bodies _ List.mem_cons_self⟩
  | .conditional condition accepted (some refused) => by
      unfold rules parts
      rw [List.forall_mem_cons, List.forall_mem_append, List.forall_mem_cons, rulesAll_hold_iff,
        rulesAll_hold_iff, List.forall_mem_cons, List.forall_mem_append]
      constructor
      · rintro ⟨filled, first, filled', second⟩
        exact ⟨⟨nofun, nofun, nofun, List.forall_mem_cons.mpr
          ⟨filled, List.forall_mem_singleton.mpr filled'⟩⟩, first, second⟩
      · rintro ⟨formed, first, second⟩
        obtain ⟨filled, filled'⟩ := List.forall_mem_cons.mp formed.bodies
        exact ⟨filled, first, filled' _ List.mem_cons_self, second⟩
  | .iterate times body | .delay ticks body => by
      unfold rules parts
      rw [List.forall_mem_cons, List.forall_mem_cons, List.forall_mem_cons, rulesAll_hold_iff,
        ← and_assoc]
      refine and_congr_left fun _ => ?_
      exact ⟨fun ⟨allowed, filled⟩ => ⟨nofun, List.forall_mem_singleton.mpr allowed, nofun,
          List.forall_mem_singleton.mpr filled⟩,
        fun formed => ⟨formed.parameters _ List.mem_cons_self, formed.bodies _ List.mem_cons_self⟩⟩

theorem rulesAll_hold_iff : ∀ {ops : List (Operation α)},
    (∀ r ∈ rulesAll ops, r.Holds v) ↔ ∀ part ∈ partsAll ops, part.WellFormed v
  | [] => by
      unfold rulesAll partsAll
      exact iff_of_true nofun nofun
  | op :: ops => by
      unfold rulesAll partsAll
      rw [List.forall_mem_append, List.forall_mem_append, rules_hold_iff, rulesAll_hold_iff]

end

end Operation

theorem Timing.rules_hold_iff {t : Timing} : (∀ r ∈ (t.rules : List (Rule α)), r.Holds v) ↔
    ∀ interval duration, t = .periodic interval duration → 1 ≤ interval ∧ interval ≤ duration := by
  cases t with
  | immediate | delayed => exact iff_of_true nofun nofun
  | periodic interval duration =>
      unfold rules
      rw [List.forall_mem_cons, List.forall_mem_singleton]
      refine ⟨fun bounds _ _ same => ?_, fun bounds => bounds _ _ rfl⟩
      cases same
      exact bounds

namespace Effect

variable {e : Effect α}

theorem rules_hold_iff : (∀ r ∈ e.rules, r.Holds v) ↔ e.WellFormed v := by
  have id : (∀ r ∈ e.id.toList.map fun i => (.mention (.identifier "effect id" i) : Rule α),
      r.Holds v) ↔ ∀ id, e.id = some id → Identifier.isValid id = true := by
    rw [List.forall_mem_map]
    exact forall_congr' fun id => imp_congr_left Option.mem_toList
  unfold rules
  rw [List.forall_mem_append, List.forall_mem_append, List.forall_mem_append, List.forall_mem_cons,
    id, Selector.rules_hold_iff, Timing.rules_hold_iff, Operation.rulesAll_hold_iff]
  exact ⟨fun ⟨id, target, timing, filled, formed⟩ => ⟨id, timing, target, filled, formed⟩,
    fun formed => ⟨formed.id, formed.target, formed.timing, formed.operations, formed.parts⟩⟩

/-- **The static check accepts the well-formed effects and no others.**  Of an effect that is not well
formed it reports the first rule, in the order of the document, that does not hold. -/
theorem check_decides_wellFormed (v : Vocabulary) (e : Effect α) :
    (e.check v = .ok () ↔ e.WellFormed v) ∧
      ∀ fault, e.check v = .error fault ↔ ∃ before rule after, e.rules = before ++ rule :: after ∧
        (∀ r ∈ before, r.Holds v) ∧ ¬ rule.Holds v ∧ rule.Breaks v fault := by
  refine ⟨(Verdict.effect e).eq_ok_iff.trans rules_hold_iff, fun fault => ?_⟩
  rw [(Verdict.effect e).eq_error_iff]
  constructor
  · rintro ⟨before, rule, after, split, kept, broken⟩
    exact ⟨before, rule, after, split, kept, broken.not_holds, broken⟩
  · rintro ⟨before, rule, after, split, kept, -, broken⟩
    exact ⟨before, rule, after, split, kept, broken⟩

end Effect

end

end Grimoire
