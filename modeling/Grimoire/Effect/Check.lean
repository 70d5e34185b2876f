import Grimoire.Effect.Basic

/-! # Static checks

`Effect.check` refuses an effect before anything of it is run: its names have to be in the vocabulary,
numbers that are written out have to be ones that the parameter allows, lists of operations must not
be empty, and a period has to fit into its duration.  Expressions that are more than a number are left
for the evaluation.  The first fault is the answer, in the order of the documents.
-/

namespace Grimoire

variable {α : Type} [Scalar α]

namespace Domain

def allows (d : Domain) (x : α) : Bool :=
  Scalar.isFinite x && match d with
    | .any => true
    | .nonNegative => decide (0 ≤ x)
    | .count => decide (0 ≤ x) && Scalar.isWhole x

end Domain

namespace Expr

def checkParameter (operation parameter : String) (d : Domain) (e : Expr α) : Except Fault Unit :=
  match e.literal? with
  | none => .ok ()
  | some x =>
    if d.allows x then .ok ()
    else .error (.validation (.literal operation parameter d (Scalar.text x)))

def checkOptional (operation parameter : String) (d : Domain) (e : Option (Expr α)) :
    Except Fault Unit :=
  match e with
  | none => .ok ()
  | some e => e.checkParameter operation parameter d

def checkCoordinate (operation : String) (e : Expr α) : Except Fault Unit :=
  match e.literal? with
  | none => .ok ()
  | some x =>
    if Scalar.isFinite x then .ok ()
    else .error (.invalidPosition (.coordinate operation (Scalar.text x)))

end Expr

namespace Coordinates

def check (operation : String) (c : Coordinates α) : Except Fault Unit := do
  c.x.checkCoordinate operation
  c.y.checkCoordinate operation

def checkOptional (operation : String) (c : Option (Coordinates α)) : Except Fault Unit :=
  match c with
  | none => .ok ()
  | some c => c.check operation

end Coordinates

def Action.check (v : Vocabulary) (action : Action α) : Except Fault Unit :=
  match action with
  | dealDamage damageType amount => do
    v.checkDamageType damageType
    amount.checkParameter action.name "amount" .any
  | heal amount => amount.checkParameter action.name "amount" .nonNegative
  | applyStatus status duration count => do
    v.checkStatus status
    count.checkParameter action.name "stacks" .count
    Expr.checkOptional action.name "duration" .nonNegative duration
  | removeStatus status count => do
    v.checkStatus status
    match count with
    | .all => .ok ()
    | .count e => e.checkParameter action.name "stacks" .any
  | modifyStat stat amount duration => do
    Vocabulary.checkStat stat
    amount.checkParameter action.name "amount" .any
    Expr.checkOptional action.name "duration" .nonNegative duration
  | setStat stat value => do
    Vocabulary.checkStat stat
    value.checkParameter action.name "value" .any
  | teleport destination => destination.check action.name
  | push direction distance => do
    Coordinates.checkOptional action.name direction
    distance.checkParameter action.name "distance" .any
  | pull toward distance => do
    Coordinates.checkOptional action.name toward
    distance.checkParameter action.name "distance" .any
  | spawnEntity entityType count place => do
    v.checkEntityType entityType
    count.checkParameter action.name "count" .count
    Coordinates.checkOptional action.name place
  | spawnItem itemId count place => do
    v.checkItem itemId
    count.checkParameter action.name "count" .count
    Coordinates.checkOptional action.name place
  | transformEntity toType duration => do
    v.checkEntityType toType
    Expr.checkOptional action.name "duration" .nonNegative duration
  | transformMaterial source result => do
    v.checkMaterial source
    v.checkMaterial result
  | emitEvent eventType payload => do
    Vocabulary.checkIdentifier "event type" eventType
    payload.keys.forM (Vocabulary.checkIdentifier "payload key")

namespace Operation

/-- Accepts a list of operations that is not empty; `list` is its name in messages. -/
def checkNonempty (list : String) (ops : List (Operation α)) : Except Fault Unit :=
  if ops.isEmpty then .error (.validation (.emptyList list)) else .ok ()

mutual

def check (v : Vocabulary) (op : Operation α) : Except Fault Unit :=
  match op with
  | act action => action.check v
  | chain effectId newTarget => do
    Vocabulary.checkIdentifier "effect id" effectId
    newTarget.check
  | trigger effectId => Vocabulary.checkIdentifier "effect id" effectId
  | conditional _ accepted refused => do
    checkNonempty "then" accepted
    checkAll v accepted
    match refused with
    | none => .ok ()
    | some ops => do
      checkNonempty "else" ops
      checkAll v ops
  | iterate times body => do
    times.checkParameter op.name "times" .count
    checkNonempty "operations" body
    checkAll v body
  | delay ticks body => do
    ticks.checkParameter op.name "ticks" .count
    checkNonempty "then" body
    checkAll v body

def checkAll (v : Vocabulary) : List (Operation α) → Except Fault Unit
  | [] => .ok ()
  | op :: ops => do
    check v op
    checkAll v ops

end

end Operation

/-- Accepts a timing whose period is positive and fits into its duration. -/
def Timing.check : Timing → Except Fault Unit
  | immediate | delayed _ => .ok ()
  | periodic interval duration =>
    if interval = 0 then .error (.validation .zeroInterval)
    else if duration < interval then .error (.validation (.shortDuration duration interval))
    else .ok ()

namespace Effect

def check (v : Vocabulary) (e : Effect α) : Except Fault Unit := do
  match e.id with
  | none => .ok ()
  | some id => Vocabulary.checkIdentifier "effect id" id
  e.target.check
  e.timing.check
  Operation.checkNonempty "operations" e.operations
  Operation.checkAll v e.operations

end Effect

end Grimoire
