import Grimoire.Expression.Operator
import Grimoire.Expression.Path

/-! # Expressions

An expression computes a number, a truth value, a text or a reference to an entity.  `Draft` is the
tree as a document spells it, with tokens and paths still texts and with whatever operands were
given; `Draft.check` is the only way from a draft to an `Expr`, and it reports the first fault: at an
operator the set of operands, then the token, then the left operand, then the right one; arguments
from left to right.
-/

namespace Grimoire

inductive Expr (α : Type) where
  | number (n : α)
  | bool (b : Bool)
  | path (p : Path)
  | text (s : String)
  | binary (op : BinaryOp) (left right : Expr α)
  | unary (op : UnaryOp) (operand : Expr α)
  | call (function : String) (args : List (Expr α))

namespace Expr

variable {α : Type}

def literal? : Expr α → Option α
  | number n => some n
  | _ => none

mutual

def nodeCount : Expr α → Nat
  | number _ | bool _ | path _ | text _ => 1
  | binary _ l r => 1 + l.nodeCount + r.nodeCount
  | unary _ e => 1 + e.nodeCount
  | call _ args => 1 + nodeCounts args

def nodeCounts : List (Expr α) → Nat
  | [] => 0
  | e :: es => e.nodeCount + nodeCounts es

end

end Expr

/-- An expression as a document spells it. -/
inductive Draft (α : Type) where
  | number (n : α)
  | bool (b : Bool)
  | path (raw : String)
  | text (s : String)
  | operator (token : String) (left right operand : Option (Draft α))
  | call (function : String) (args : List (Draft α))

namespace Draft

variable {α : Type}

mutual

def check : Draft α → Except ExprFault (Expr α)
  | number n => .ok (.number n)
  | bool b => .ok (.bool b)
  | path raw => match Path.parse raw with
    | .ok p => .ok (.path p)
    | .error fault => .error (.path raw fault)
  | text s => .ok (.text s)
  | operator token (some left) (some right) none =>
    match BinaryOp.ofToken? token with
    | none => .error (.unknownBinary token)
    | some op => do
      let l ← check left
      let r ← check right
      pure (.binary op l r)
  | operator token none none (some operand) =>
    match UnaryOp.ofToken? token with
    | none => .error (.unknownUnary token)
    | some op => do
      let e ← check operand
      pure (.unary op e)
  | operator token _ _ _ => .error (.operands token)
  | call function args => do
    let es ← checkAll args
    pure (.call function es)

def checkAll : List (Draft α) → Except ExprFault (List (Expr α))
  | [] => .ok []
  | d :: ds => do
    let e ← check d
    let es ← checkAll ds
    pure (e :: es)

end

end Draft

end Grimoire
