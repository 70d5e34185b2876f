import Grimoire.Fault
import Grimoire.Json.Kind
import Grimoire.Number.Scalar
import Grimoire.Text.Quoted

/-! # Values

What an expression computes.
-/

namespace Grimoire

inductive Value (α : Type) where
  | number (n : α)
  | bool (b : Bool)
  | text (s : String)
  | entity (id : EntityId)

namespace Value

variable {α : Type}

def typeName : Value α → String
  | number _ => "number"
  | bool _ => "bool"
  | text _ => "text"
  | entity _ => "entity"

def number? : Value α → Option α
  | number n => some n
  | _ => none

def entity? : Value α → Option EntityId
  | entity id => some id
  | _ => none

def text? : Value α → Option String
  | text s => some s
  | _ => none

/-- Whether a value counts as true: numbers other than zero, texts with characters, and every
entity. -/
def truthy [Scalar α] : Value α → Bool
  | number n => Scalar.truthy n
  | bool b => b
  | text s => !s.isEmpty
  | entity _ => true

def display [Scalar α] : Value α → String
  | number n => Scalar.text n
  | bool b => if b then "true" else "false"
  | text s => Quoted.text s
  | entity id => id.text

/-- Whether two values of one type are equal; `none` when they are of different types. -/
def equal? [Quantity α] : Value α → Value α → Option Bool
  | number a, number b => some (a == b)
  | bool a, bool b => some (a == b)
  | text a, text b => some (a == b)
  | entity a, entity b => some (a == b)
  | _, _ => none

def toJson (v : Value Float) : Json :=
  .record [("type", .text v.typeName), ("value", match v with
    | number n => .ofFloat n
    | bool b => .bool b
    | text s => .text s
    | entity id => .ofNat id)]

def kind (name : String) (read : Json → Except DecodeFault (Value Float)) :
    Kind Json (Value Float) where
  names := [name]
  columns := ⟨["value"], 1⟩
  read members := Record.required members "value" read

def kinds : List (Kind Json (Value Float)) :=
  [kind "number" fun j => j.asFloat.map number, kind "bool" fun j => j.asBool.map bool,
   kind "text" fun j => j.asText.map text, kind "entity" fun j => (j.asNat maxCount).map entity]

def ofJson : Json → Except DecodeFault (Value Float) := Kind.ofJson .name kinds "type"

end Value

end Grimoire
