import Grimoire.Fault

/-! # Functions

The functions that expressions may call, their names and how many arguments they take.
-/

namespace Grimoire

inductive Function where
  | randomInt
  | random
  | min
  | max
  | abs
  | floor
  | ceil
  | round
  | sqrt
  | clamp
  | distance
  | hasStatus
  | hasComponent
  | stackCount
  deriving DecidableEq, Repr

namespace Function

def all : List Function :=
  [randomInt, random, min, max, abs, floor, ceil, round, sqrt, clamp, distance, hasStatus,
   hasComponent, stackCount]

def name : Function → String
  | randomInt => "random_int"
  | random => "random"
  | min => "min"
  | max => "max"
  | abs => "abs"
  | floor => "floor"
  | ceil => "ceil"
  | round => "round"
  | sqrt => "sqrt"
  | clamp => "clamp"
  | distance => "distance"
  | hasStatus => "has_status"
  | hasComponent => "has_component"
  | stackCount => "stacks"

/-- The least and the largest count of arguments; `none` when there is no largest. -/
def arity : Function → Nat × Option Nat
  | random => (0, some 0)
  | abs | floor | ceil | round | sqrt => (1, some 1)
  | randomInt | distance | hasStatus | hasComponent | stackCount => (2, some 2)
  | clamp => (3, some 3)
  | min | max => (1, none)

def expected (f : Function) : String :=
  match f.arity with
  | (least, none) => "at least " ++ toString least
  | (least, some most) =>
    if most = least then toString least else toString least ++ "..=" ++ toString most

/-- The function of a name, which has to be an identifier before it is looked up. -/
def ofName (s : String) : Except EvalFault Function :=
  match Identifier.rejection? s with
  | some r => .error (.functionName s r)
  | none => match all.find? fun f => f.name = s with
    | some f => .ok f
    | none => .error (.unknownFunction s)

def takes (f : Function) (given : Nat) : Bool :=
  decide (f.arity.1 ≤ given) && (match f.arity.2 with
    | none => true
    | some most => decide (given ≤ most))

def checkArity (f : Function) (given : Nat) : Except EvalFault Unit :=
  if f.takes given then .ok () else .error (.arity f.name f.expected given)

end Function

end Grimoire
