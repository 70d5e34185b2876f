import Grimoire.Expression.Basic
import Grimoire.Json.Record

/-! # Expressions in documents

Numbers and truth values stand for themselves and a text is a path.  A record is a text literal if it
has a text `text`, else an operator if it has a text `op` and its operands are expressions, else a
call if it has a text `fn` and its `args` are a list of expressions; a member of the shape that is
repeated makes the shape not fit, and members of other shapes are ignored.  If any part of the tree
fits nothing or is a flaw, the document does not decode; only then is the tree checked.
-/

namespace Grimoire

namespace Draft

/-- A member of a record that may be an expression, with everything that it can be read as. -/
structure Part where
  json : Json
  draft? : Option (Draft Float)
  drafts? : Option (List (Draft Float))

def partText? (name : String) (parts : List (String × Part)) : Option String :=
  Record.tag? name (fun part => part.json.text?) parts

def operand? (name : String) (parts : List (String × Part)) : Option (Option (Draft Float)) :=
  match Record.occurrences [name] parts with
  | [] => some none
  | [(_, part)] => match part.json with
    | .null => some none
    | _ => part.draft?.map some
  | _ => none

def args? (parts : List (String × Part)) : Option (List (Draft Float)) :=
  match Record.occurrences ["args"] parts with
  | [] => some []
  | [(_, part)] => part.drafts?
  | _ => none

def textShape? (parts : List (String × Part)) : Option (Draft Float) :=
  (partText? "text" parts).map text

def operatorShape? (parts : List (String × Part)) : Option (Draft Float) := do
  let token ← partText? "op" parts
  let left ← operand? "left" parts
  let right ← operand? "right" parts
  let operand ← operand? "operand" parts
  some (operator token left right operand)

def callShape? (parts : List (String × Part)) : Option (Draft Float) := do
  let function ← partText? "fn" parts
  let args ← args? parts
  some (call function args)

def ofParts? (parts : List (String × Part)) : Option (Draft Float) :=
  (textShape? parts).orElse fun _ => (operatorShape? parts).orElse fun _ => callShape? parts

mutual

def ofJson? : Json → Option (Draft Float)
  | .int n => some (number (Double.ofInt n))
  | .float x => some (number x)
  | .bool b => some (bool b)
  | .text s => some (path s)
  | .record members => ofParts? (ofMembers members)
  | .list _ => none
  | .null => none
  | .flaw _ => none

def ofItems? : List Json → Option (List (Draft Float))
  | [] => some []
  | j :: js => match ofJson? j, ofItems? js with
    | some d, some ds => some (d :: ds)
    | _, _ => none

def ofList? : Json → Option (List (Draft Float))
  | .list items => ofItems? items
  | _ => none

def ofMembers : List (String × Json) → List (String × Part)
  | [] => []
  | (name, j) :: rest => (name, ⟨j, ofJson? j, ofList? j⟩) :: ofMembers rest

end

end Draft

namespace Expr

def ofJson : Json → Except DecodeFault (Expr Float) := Json.asWhole fun j =>
  match Draft.ofJson? j with
  | none => .error .shape
  | some d => match d.check with
    | .ok e => .ok e
    | .error fault => .error (.expression fault)

mutual

def toJson : Expr Float → Json
  | number n => .ofFloat n
  | bool b => .bool b
  | path p => .text p.raw
  | text s => .record [("text", .text s)]
  | binary op l r => .record [("op", .text op.token), ("left", l.toJson), ("right", r.toJson)]
  | unary op e => .record [("op", .text op.token), ("operand", e.toJson)]
  | call function args => .record [("fn", .text function), ("args", .list (toJsonAll args))]

def toJsonAll : List (Expr Float) → List Json
  | [] => []
  | e :: es => e.toJson :: toJsonAll es

end

def read : String → Except Fault (Expr Float) := Json.readAs "expression" ofJson

end Expr

end Grimoire
