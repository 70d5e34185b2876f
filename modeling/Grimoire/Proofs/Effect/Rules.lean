import Grimoire.Proofs.Effect.Parts

/-! # The rules of the static check

What the static check asks of an effect is a list of rules: of every name that it is known, of every
parameter that it is in its domain if it is written out, of every list of operations that it is not
empty, and so on.  `Effect.rules` lists them in the order of the documents, and `Verdict` says what a
check of a list of rules answers: that all of them hold, or the fault of the first one that is broken.

The rules say nothing of how they are checked, and the tables of what an operation mentions and what its
parameters are leave out how operations lie in each other.
-/

namespace Grimoire

variable {α : Type}

/-! ## Names -/

/-- The lists in which names are looked up. -/
inductive Lexicon where
  | stat
  | status
  | entityType
  | item
  | material
  | damageType
  deriving DecidableEq, Repr

/-- Whether a name is in a list.  The stats are the same for everybody. -/
def Vocabulary.Lists (v : Vocabulary) : Lexicon → String → Prop
  | .stat, name => name ∈ knownStats
  | .status, name => name ∈ v.statuses
  | .entityType, name => name ∈ v.entityTypes
  | .item, name => name ∈ v.items
  | .material, name => name ∈ v.materials
  | .damageType, name => name ∈ v.damageTypes

/-- A name in an effect. -/
inductive Mention where
  | listed (l : Lexicon) (name : String)
  /-- A name that is in no list; `what` says in messages what it is for. -/
  | identifier (what name : String)
  deriving DecidableEq, Repr

/-- Whether a name may stand where it does: it is an identifier, and listed if it has to be. -/
def Mention.Admitted (v : Vocabulary) : Mention → Prop
  | listed l name => Identifier.isValid name = true ∧ v.Lists l name
  | identifier _ name => Identifier.isValid name = true

namespace Lexicon

def malformed (name : String) (r : Rejection) : Lexicon → Fault
  | stat => .invalidStat name r.message
  | status => .invalidStatus name r.message
  | entityType | item => .invalidEntityType name r.message
  | material => .invalidMaterial name r.message
  | damageType => .validation (.identifier "damage type" name r)

def unlisted (name : String) : Lexicon → Fault
  | stat => .invalidStat name "not a known stat"
  | status => .invalidStatus name "not a registered status"
  | entityType => .invalidEntityType name "not a registered entity type"
  | item => .invalidEntityType name "not a registered item"
  | material => .invalidMaterial name "not a registered material"
  | damageType => .validation (.unknownDamageType name)

end Lexicon

/-! ## Parameters -/

/-- A parameter of an operation that is held to some domain when it is a number written out. -/
inductive Parameter (α : Type) where
  | amount (name : String) (d : Domain) (e : Expr α)
  | coordinate (e : Expr α)

/-! ## Tables -/

namespace Action

def mentions : Action α → List Mention
  | dealDamage damageType _ => [.listed .damageType damageType]
  | applyStatus status _ _ | removeStatus status _ => [.listed .status status]
  | modifyStat stat _ _ | setStat stat _ => [.listed .stat stat]
  | spawnEntity entityType _ _ | transformEntity entityType _ => [.listed .entityType entityType]
  | spawnItem itemId _ _ => [.listed .item itemId]
  | transformMaterial source result => [.listed .material source, .listed .material result]
  | emitEvent eventType payload =>
    .identifier "event type" eventType :: payload.keys.map (.identifier "payload key")
  | heal _ | teleport _ | push _ _ | pull _ _ => []

/-- The parameters of an action that are held to a domain; the values of a payload are not. -/
def parameters : Action α → List (Parameter α)
  | dealDamage _ amount => [.amount "amount" .any amount]
  | heal amount => [.amount "amount" .nonNegative amount]
  | applyStatus _ duration count =>
    .amount "stacks" .count count :: duration.toList.map (.amount "duration" .nonNegative)
  | removeStatus _ count => count.expressions.map (.amount "stacks" .any)
  | modifyStat _ amount duration =>
    .amount "amount" .any amount :: duration.toList.map (.amount "duration" .nonNegative)
  | setStat _ value => [.amount "value" .any value]
  | teleport destination => destination.expressions.map .coordinate
  | push place distance | pull place distance =>
    (Coordinates.expressions? place).map .coordinate ++ [.amount "distance" .any distance]
  | spawnEntity _ count place | spawnItem _ count place =>
    .amount "count" .count count :: (Coordinates.expressions? place).map .coordinate
  | transformEntity _ duration => duration.toList.map (.amount "duration" .nonNegative)
  | transformMaterial .. | emitEvent .. => []

end Action

namespace Operation

/-- The names in an operation itself, without those of the operations in it. -/
def mentions : Operation α → List Mention
  | act action => action.mentions
  | chain effectId _ | trigger effectId => [.identifier "effect id" effectId]
  | conditional .. | iterate .. | delay .. => []

/-- The parameters of an operation itself; a condition is not held to a domain. -/
def parameters : Operation α → List (Parameter α)
  | act action => action.parameters
  | iterate times _ => [.amount "times" .count times]
  | delay ticks _ => [.amount "ticks" .count ticks]
  | chain .. | trigger .. | conditional .. => []

/-- The lists of operations that an operation is made of. -/
def bodies : Operation α → List (List (Operation α))
  | conditional _ accepted refused => accepted :: refused.toList
  | iterate _ body | delay _ body => [body]
  | act _ | chain .. | trigger _ => []

end Operation

/-! ## Rules -/

/-- Something that the static check asks for. -/
inductive Rule (α : Type) where
  | mention (m : Mention)
  | parameter (operation : String) (p : Parameter α)
  | shape (parameter : String) (x : α)
  | list (name : String) (ops : List (Operation α))
  | interval (interval : Nat)
  | duration (interval duration : Nat)

def Selector.rules (s : Selector α) : List (Rule α) :=
  s.shape.parameters.map (fun p => .shape p.1 p.2) ++
    match s.filter with
    | none => []
    | some f =>
      f.entityTypes.map (.mention <| .identifier "filter entity type" ·) ++
        (f.factions.map (.mention <| .identifier "filter faction" ·) ++
          f.components.map (.mention <| .identifier "filter component" ·))

def Action.rules (a : Action α) : List (Rule α) :=
  a.mentions.map .mention ++ a.parameters.map (.parameter a.name)

namespace Operation

mutual

/-- The rules of an operation and of all operations in it. -/
def rules : Operation α → List (Rule α)
  | act action => action.rules
  | chain effectId newTarget => .mention (.identifier "effect id" effectId) :: newTarget.rules
  | trigger effectId => [.mention (.identifier "effect id" effectId)]
  | conditional _ accepted none => .list "then" accepted :: rulesAll accepted
  | conditional _ accepted (some refused) =>
    .list "then" accepted :: (rulesAll accepted ++ .list "else" refused :: rulesAll refused)
  | iterate times body =>
    .parameter "repeat" (.amount "times" .count times) :: .list "operations" body :: rulesAll body
  | delay ticks body =>
    .parameter "delay" (.amount "ticks" .count ticks) :: .list "then" body :: rulesAll body

def rulesAll : List (Operation α) → List (Rule α)
  | [] => []
  | op :: ops => op.rules ++ rulesAll ops

end

end Operation

def Timing.rules : Timing → List (Rule α)
  | immediate | delayed _ => []
  | periodic interval duration => [.interval interval, .duration interval duration]

/-- All rules of an effect: its id, its selector, its timing, and its operations. -/
def Effect.rules (e : Effect α) : List (Rule α) :=
  e.id.toList.map (.mention <| .identifier "effect id" ·) ++
    (e.target.rules ++
      (e.timing.rules ++ .list "operations" e.operations :: Operation.rulesAll e.operations))

variable [Scalar α]

def Domain.Admits (d : Domain) (x : α) : Prop :=
  Scalar.isFinite x = true ∧ match d with
    | .any => True
    | .nonNegative => 0 ≤ x
    | .count => 0 ≤ x ∧ Scalar.isWhole x = true

/-- Whether a parameter is in its domain; one that is more than a number may be anything. -/
def Parameter.Allowed : Parameter α → Prop
  | amount _ d e => ∀ x, e = .number x → d.Admits x
  | coordinate e => ∀ x, e = .number x → Scalar.isFinite x = true

def Shape.Measures (x : α) : Prop := Scalar.isFinite x = true ∧ 0 ≤ x

def Rule.Holds (v : Vocabulary) : Rule α → Prop
  | .mention m => m.Admitted v
  | .parameter _ p => p.Allowed
  | .shape _ x => Shape.Measures x
  | .list _ ops => ops ≠ []
  | .interval ticks => 1 ≤ ticks
  | .duration ticks total => ticks ≤ total

/-- The ways to break a rule, each with the fault that says so. -/
inductive Rule.Breaks (v : Vocabulary) : Rule α → Fault → Prop where
  | malformed {l name r} (rejected : Identifier.rejection? name = some r) :
      Breaks v (.mention (.listed l name)) (l.malformed name r)
  | unlisted {l name} (identifier : Identifier.isValid name = true) (unlisted : ¬ v.Lists l name) :
      Breaks v (.mention (.listed l name)) (l.unlisted name)
  | identifier {what name r} (rejected : Identifier.rejection? name = some r) :
      Breaks v (.mention (.identifier what name)) (.validation (.identifier what name r))
  | amount {operation name d x} (outside : ¬ d.Admits x) :
      Breaks v (.parameter operation (.amount name d (.number x)))
        (.validation (.literal operation name d (Scalar.text x)))
  | coordinate {operation x} (infinite : Scalar.isFinite x = false) :
      Breaks v (.parameter operation (.coordinate (.number x)))
        (.invalidPosition (.coordinate operation (Scalar.text x)))
  | shape {name x} (outside : ¬ Shape.Measures x) :
      Breaks v (.shape name x) (.validation (.shapeParameter name (Scalar.text x)))
  | list (name) : Breaks v (.list name []) (.validation (.emptyList name))
  | interval : Breaks v (.interval 0) (.validation .zeroInterval)
  | duration {interval duration} (short : duration < interval) :
      Breaks v (.duration interval duration) (.validation (.shortDuration duration interval))

namespace Rule.Breaks

variable {v : Vocabulary} {r : Rule α} {fault fault' : Fault}

theorem not_holds (h : r.Breaks v fault) : ¬ r.Holds v := by
  cases h with
  | malformed rejected =>
      rintro ⟨valid, -⟩
      simp [Identifier.isValid, rejected] at valid
  | unlisted _ unlisted => exact fun holds => unlisted holds.2
  | identifier rejected =>
      intro valid
      simp [Holds, Mention.Admitted, Identifier.isValid, rejected] at valid
  | amount outside => exact fun holds => outside (holds _ rfl)
  | coordinate infinite => exact fun holds => by simp [holds _ rfl] at infinite
  | shape outside => exact outside
  | list => exact fun holds => holds rfl
  | interval => exact Nat.not_succ_le_zero 0
  | duration short => exact Nat.not_le_of_lt short

theorem unique (h : r.Breaks v fault) (h' : r.Breaks v fault') : fault = fault' := by
  cases h with
  | malformed rejected =>
      cases h' with
      | malformed rejected' => rw [Option.some.inj (rejected.symm.trans rejected')]
      | unlisted valid => simp [Identifier.isValid, rejected] at valid
  | unlisted valid =>
      cases h' with
      | malformed rejected => simp [Identifier.isValid, rejected] at valid
      | unlisted => rfl
  | identifier rejected =>
      cases h' with
      | identifier rejected' => rw [Option.some.inj (rejected.symm.trans rejected')]
  | amount | coordinate | shape | list | interval | duration =>
      cases h'
      rfl

end Rule.Breaks

/-! ## Verdicts -/

/-- What a check of rules answers: that they hold, or the fault of the first one that is broken. -/
inductive Verdict (v : Vocabulary) : List (Rule α) → Except Fault Unit → Prop where
  | accepts {rules} (all : ∀ r ∈ rules, r.Holds v) : Verdict v rules (.ok ())
  | refuses {before rule fault} (after) (kept : ∀ r ∈ before, r.Holds v)
      (broken : rule.Breaks v fault) : Verdict v (before ++ rule :: after) (.error fault)

namespace Verdict

variable {v : Vocabulary} {r : Rule α} {rules rules' : List (Rule α)} {x y : Except Fault Unit}

theorem nil : Verdict v ([] : List (Rule α)) (.ok ()) :=
  accepts fun _ listed => absurd listed List.not_mem_nil

theorem holds (h : r.Holds v) : Verdict v [r] (.ok ()) := accepts (List.forall_mem_singleton.mpr h)

theorem breaks {fault : Fault} (h : r.Breaks v fault) : Verdict v (r :: rules) (.error fault) := by
  have kept : ∀ r ∈ ([] : List (Rule α)), r.Holds v := fun _ listed => absurd listed List.not_mem_nil
  exact refuses rules kept h

/-- Checks in a row check the rules of all of them, in that order. -/
theorem append (h : Verdict v rules x) (h' : Verdict v rules' y) :
    Verdict v (rules ++ rules') (x >>= fun _ => y) := by
  cases h with
  | refuses after kept broken =>
      rw [List.append_assoc]
      exact refuses (after ++ rules') kept broken
  | accepts all =>
      cases h' with
      | accepts all' => exact accepts (List.forall_mem_append.mpr ⟨all, all'⟩)
      | refuses after kept broken =>
          rw [← List.append_assoc]
          exact refuses after (List.forall_mem_append.mpr ⟨all, kept⟩) broken

theorem cons (h : Verdict v [r] x) (h' : Verdict v rules y) :
    Verdict v (r :: rules) (x >>= fun _ => y) := h.append h'

theorem forM {β : Type} {rule : β → Rule α} {check : β → Except Fault Unit}
    (h : ∀ b, Verdict v [rule b] (check b)) (bs : List β) :
    Verdict v (bs.map rule) (bs.forM check) := by
  induction bs with
  | nil => exact nil
  | cons b bs ih => exact (h b).cons ih

theorem eq_ok_iff (h : Verdict v rules x) : x = .ok () ↔ ∀ r ∈ rules, r.Holds v := by
  cases h with
  | accepts all => exact iff_of_true rfl all
  | refuses after kept broken =>
      refine iff_of_false nofun fun all => broken.not_holds (all _ ?_)
      exact List.mem_append_right _ List.mem_cons_self

/-- Of two ways to split a list before a rule that is broken and after rules that hold, both split it at
the same rule. -/
theorem rule_unique {before after before' after' : List (Rule α)} {r r' : Rule α}
    (same : before ++ r :: after = before' ++ r' :: after') (kept : ∀ x ∈ before, x.Holds v)
    (broken : ¬ r.Holds v) (kept' : ∀ x ∈ before', x.Holds v) (broken' : ¬ r'.Holds v) : r = r' := by
  rcases List.append_eq_append_iff.mp same with ⟨between, rfl, rest⟩ | ⟨between, rfl, rest⟩
  · cases between with
    | nil => exact (List.cons.inj rest).1
    | cons x between =>
        obtain ⟨rfl, -⟩ := List.cons.inj rest
        exact absurd (kept' r (List.mem_append_right _ List.mem_cons_self)) broken
  · cases between with
    | nil => exact (List.cons.inj rest).1.symm
    | cons x between =>
        obtain ⟨rfl, -⟩ := List.cons.inj rest
        exact absurd (kept r' (List.mem_append_right _ List.mem_cons_self)) broken'

theorem eq_error_iff (h : Verdict v rules x) (fault : Fault) :
    x = .error fault ↔ ∃ before rule after, rules = before ++ rule :: after ∧
      (∀ r ∈ before, r.Holds v) ∧ rule.Breaks v fault := by
  cases h with
  | accepts all =>
      refine iff_of_false nofun ?_
      rintro ⟨before, rule, after, rfl, -, broken⟩
      exact broken.not_holds (all rule (List.mem_append_right _ List.mem_cons_self))
  | @refuses before rule fault' after kept broken =>
      constructor
      · rintro ⟨⟩
        exact ⟨before, rule, after, rfl, kept, broken⟩
      · rintro ⟨before', rule', after', same, kept', broken'⟩
        obtain rfl := rule_unique same kept broken.not_holds kept' broken'.not_holds
        rw [broken.unique broken']

end Verdict

end Grimoire
