/-! # Operators

The operators of expressions and the tokens they are written with.
-/

namespace Grimoire

inductive BinaryOp where
  | add
  | sub
  | mul
  | div
  | rem
  | lt
  | le
  | gt
  | ge
  | eq
  | ne
  | and
  | or
  deriving DecidableEq, Repr

namespace BinaryOp

def all : List BinaryOp := [add, sub, mul, div, rem, lt, le, gt, ge, eq, ne, and, or]

def token : BinaryOp → String
  | add => "+"
  | sub => "-"
  | mul => "*"
  | div => "/"
  | rem => "%"
  | lt => "<"
  | le => "<="
  | gt => ">"
  | ge => ">="
  | eq => "=="
  | ne => "!="
  | and => "&&"
  | or => "||"

def ofToken? (s : String) : Option BinaryOp := all.find? fun op => op.token = s

theorem ofToken?_token (op : BinaryOp) : ofToken? op.token = some op := by
  cases op <;> decide

end BinaryOp

inductive UnaryOp where
  | not
  | neg
  deriving DecidableEq, Repr

namespace UnaryOp

def all : List UnaryOp := [not, neg]

def token : UnaryOp → String
  | not => "!"
  | neg => "neg"

def ofToken? (s : String) : Option UnaryOp := all.find? fun op => op.token = s

theorem ofToken?_token (op : UnaryOp) : ofToken? op.token = some op := by
  cases op <;> decide

end UnaryOp

end Grimoire
