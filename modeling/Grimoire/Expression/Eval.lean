import Grimoire.Expression.Basic
import Grimoire.Expression.Function
import Grimoire.Random.Stream
import Grimoire.World.Basic

/-! # Evaluation

`Expr.eval` computes an expression from what is bound: a world that it only reads, a caster and
perhaps a target.  Nothing but the random stream is changed, and it stays as far as it was drawn when
an evaluation fails.

Literals, the results of arithmetic and the results of functions have to be finite; what is read from
the world is taken as it is.  `&&` and `||` leave out the right side when the left side decides.
-/

namespace Grimoire

/-- What an expression is evaluated against. -/
structure Bindings (α : Type) where
  world : World α
  caster : EntityId
  target : Option EntityId

/-- A computation that may draw from a random stream and may fail. -/
abbrev Draw (β : Type) := EStateM Fault Stream β

namespace Draw

variable {β : Type}

def fail (cause : EvalFault) : Draw β := throw (.evaluation cause)

def orFail (x : Option β) (cause : EvalFault) : Draw β :=
  match x with
  | some x => pure x
  | none => fail cause

def ofExcept (x : Except EvalFault β) : Draw β :=
  match x with
  | .ok x => pure x
  | .error cause => fail cause

def draw (next : Stream → β × Stream) : Draw β := modifyGet next

end Draw

namespace Value

variable {α : Type}

def asNumber (what : String) (v : Value α) : Draw α :=
  Draw.orFail v.number? (.notNumber what v.typeName)

def asEntity (what : String) (v : Value α) : Draw EntityId :=
  Draw.orFail v.entity? (.notEntity what v.typeName)

/-- The text of a value, which has to be an identifier because it is looked up. -/
def asKey (what : String) (v : Value α) : Draw String := do
  let key ← Draw.orFail v.text? (.notText what v.typeName)
  match Identifier.rejection? key with
  | some r => Draw.fail (.key what key r)
  | none => pure key

def finite [Scalar α] (what : String) (n : α) : Draw (Value α) :=
  if Scalar.isFinite n then pure (.number n) else Draw.fail (.nonFinite what (Scalar.text n))

end Value

variable {α : Type} [Scalar α]

/-! ## Paths -/

namespace Bindings

/-- The position of an entity; `what` says in messages who asks. -/
def position (b : Bindings α) (what : String) (id : EntityId) : Draw (Position α) :=
  Draw.orFail (b.world.get? id .position) (.noPosition what id)

def readField (b : Bindings α) (raw : String) (id : EntityId) (e : Entity α) :
    EntityField → Draw (Value α)
  | .reference => pure (.entity id)
  | .id => pure (.number (Scalar.ofNat id))
  | .health => pure (.number (e.statValue "health"))
  | .maxHealth => pure (.number (e.statValue "maxHealth"))
  | .positionX => do
    let p ← b.position raw id
    pure (.number p.x)
  | .positionY => do
    let p ← b.position raw id
    pure (.number p.y)
  | .facing => pure (.number e.heading)
  | .faction => pure (.text ((e.get? .faction).getD ""))
  | .typeName => pure (.text e.typeName)
  | .stat name => pure (.number (e.statValue name))
  | .status name => pure (.number (Scalar.ofNat (e.statusStacks name)))

def root (b : Bindings α) (raw : String) : Root → Draw EntityId
  | .caster => pure b.caster
  | .target => Draw.orFail b.target (.noTarget raw)

def read (b : Bindings α) (p : Path) : Draw (Value α) :=
  match p.access with
  | .tick => pure (.number (Scalar.ofNat b.world.tick))
  | .entityCount => pure (.number (Scalar.ofNat b.world.count))
  | .entity root field => do
    let id ← b.root p.raw root
    let e ← Draw.orFail (b.world.entity? id) (.missingEntity p.raw id)
    b.readField p.raw id e field

end Bindings

/-! ## Operators -/

namespace UnaryOp

def apply (op : UnaryOp) (v : Value α) : Draw (Value α) :=
  match op with
  | .not => pure (.bool !v.truthy)
  | .neg => do
    let n ← v.asNumber op.token
    pure (.number (-n))

end UnaryOp

namespace BinaryOp

def decide? (op : BinaryOp) (left : Value α) : Option Bool :=
  match op with
  | .and => if left.truthy then none else some false
  | .or => if left.truthy then some true else none
  | _ => none

def applyNumbers (op : BinaryOp) (a b : α) : Draw (Value α) :=
  match op with
  | .lt => pure (.bool (a < b))
  | .le => pure (.bool (a ≤ b))
  | .gt => pure (.bool (b < a))
  | .ge => pure (.bool (b ≤ a))
  | .add => Value.finite op.token (a + b)
  | .sub => Value.finite op.token (a - b)
  | .mul => Value.finite op.token (a * b)
  | .div => if b == 0 then Draw.fail (.divisionByZero op.token) else Value.finite op.token (a / b)
  | _ =>
    if b == 0 then Draw.fail (.divisionByZero op.token)
    else Value.finite op.token (Scalar.remainder a b)

def apply (op : BinaryOp) (left right : Value α) : Draw (Value α) :=
  match op with
  | .and | .or => pure (.bool right.truthy)
  | .eq => do
    let equal ← Draw.orFail (left.equal? right) (.mismatch op.token left.typeName right.typeName)
    pure (.bool equal)
  | .ne => do
    let equal ← Draw.orFail (left.equal? right) (.mismatch op.token left.typeName right.typeName)
    pure (.bool !equal)
  | _ => match left, right with
    | .number a, .number b => op.applyNumbers a b
    | _, _ => Draw.fail (.mismatch op.token left.typeName right.typeName)

end BinaryOp

/-! ## Functions -/

namespace Function

/-- The nearest whole number to a number, among those with 64 bits and a sign. -/
def bound (x : α) : Int := Scalar.saturate (-9223372036854775808) 9223372036854775807 (Scalar.round x)

def choose (better : α → α → α) (what : String) (first : α) : List (Value α) → Draw α
  | [] => pure first
  | v :: vs => do
    let n ← v.asNumber what
    choose better what (better first n) vs

/-- A number between two bounds, if they are in order.  A bound that is no number is out of order with
nothing and in order with nothing. -/
def clampTo (x low high : α) : Draw α :=
  if high < low then Draw.fail (.clampOrder (Scalar.text low) (Scalar.text high))
  else match Quantity.confine? low high x with
    | some n => pure n
    | none => throw .brokenBounds

def stacksOf (b : Bindings α) (id : EntityId) (status : String) : Nat :=
  ((b.world.entity? id).map (·.statusStacks status)).getD 0

def apply (b : Bindings α) (f : Function) (args : List (Value α)) : Draw (Value α) :=
  match f, args with
  | .randomInt, [low, high] => do
    let low ← low.asNumber f.name
    let high ← high.asNumber f.name
    let n ← Draw.draw (Stream.between (bound low) (bound high))
    Value.finite f.name (Scalar.ofInt n)
  | .random, [] => do
    let n ← Draw.draw Stream.unit
    Value.finite f.name n
  | .min, first :: others => do
    let n ← first.asNumber f.name
    let n ← choose Quantity.min f.name n others
    Value.finite f.name n
  | .max, first :: others => do
    let n ← first.asNumber f.name
    let n ← choose Quantity.max f.name n others
    Value.finite f.name n
  | .abs, [x] => do
    let n ← x.asNumber f.name
    Value.finite f.name (Scalar.abs n)
  | .floor, [x] => do
    let n ← x.asNumber f.name
    Value.finite f.name (Scalar.floor n)
  | .ceil, [x] => do
    let n ← x.asNumber f.name
    Value.finite f.name (Scalar.ceil n)
  | .round, [x] => do
    let n ← x.asNumber f.name
    Value.finite f.name (Scalar.round n)
  | .sqrt, [x] => do
    let n ← x.asNumber f.name
    if n < 0 then Draw.fail (.negativeRoot (Scalar.text n))
    else Value.finite f.name (Scalar.sqrt n)
  | .clamp, [x, low, high] => do
    let x ← x.asNumber f.name
    let low ← low.asNumber f.name
    let high ← high.asNumber f.name
    let n ← clampTo x low high
    Value.finite f.name n
  | .distance, [p, q] => do
    let p ← p.asEntity f.name
    let p ← b.position f.name p
    let q ← q.asEntity f.name
    let q ← b.position f.name q
    Value.finite f.name (p.distance q)
  | .hasStatus, [e, status] => do
    let id ← e.asEntity f.name
    let status ← status.asKey f.name
    pure (.bool (0 < stacksOf b id status))
  | .stackCount, [e, status] => do
    let id ← e.asEntity f.name
    let status ← status.asKey f.name
    Value.finite f.name (Scalar.ofNat (stacksOf b id status))
  | .hasComponent, [e, name] => do
    let id ← e.asEntity f.name
    let name ← name.asKey f.name
    pure (.bool (((b.world.entity? id).map (·.hasComponent name)).getD false))
  | f, args => Draw.fail (.arity f.name f.expected args.length)

end Function

/-! ## Expressions -/

namespace Expr

mutual

def eval (b : Bindings α) : Expr α → Draw (Value α)
  | number n => Value.finite "literal" n
  | bool t => pure (.bool t)
  | text s => pure (.text s)
  | path p => b.read p
  | unary op e => do
    let v ← eval b e
    op.apply v
  | binary op l r => do
    let left ← eval b l
    match op.decide? left with
    | some decided => pure (.bool decided)
    | none => do
      let right ← eval b r
      op.apply left right
  | call name args => do
    let f ← Draw.ofExcept (Function.ofName name)
    Draw.ofExcept (f.checkArity args.length)
    let values ← evalAll b args
    f.apply b values

def evalAll (b : Bindings α) : List (Expr α) → Draw (List (Value α))
  | [] => pure []
  | e :: es => do
    let v ← eval b e
    let vs ← evalAll b es
    pure (v :: vs)

end

def evalNumber (b : Bindings α) (e : Expr α) : Draw α := do
  let v ← e.eval b
  v.asNumber "expression"

/-- Whether an expression computes something that counts as true. -/
def evalBool (b : Bindings α) (e : Expr α) : Draw Bool := do
  let v ← e.eval b
  pure v.truthy

def evalWhole (b : Bindings α) (e : Expr α) : Draw α := do
  let n ← e.evalNumber b
  if Scalar.isWhole n then pure n else Draw.fail (.notWhole (Scalar.text n))

end Expr

end Grimoire
