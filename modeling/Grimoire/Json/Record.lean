import Grimoire.Fault
import Grimoire.Json.Reader
import Grimoire.Names
import Grimoire.Number.Double

/-! # Reading records

A record is read member by member in the order it was written, and the first fault is the one that
counts: a member with a bad value, or a member that is there for the second time.  Members that are
missing altogether come after all of them.  `Placed` carries a fault with its place, and putting two
readings together keeps the earlier fault, so a reader may ask for the members in any order.  Members
that nobody asks for are passed over: only a text that breaks off in one is a fault.

A list stands for a record as well, with the values of the members in an order that `Columns` fixes.

Some readers cannot tell what to ask for before they have seen the last member.  `Json.asWhole` holds
the value for them as a whole, and a flaw anywhere in it is a fault.
-/

namespace Grimoire

/-- The reading of part of a record: what was found, or a fault and its place. -/
inductive Placed (γ : Type) where
  | found (value : γ)
  | fault (place : Nat) (cause : DecodeFault)

namespace Placed

variable {γ δ : Type}

/-- Applies what one part answers to what another part answers; of two faults the earlier one, and of
two in one place the one of the first part. -/
def both (f : Placed (γ → δ)) (x : Placed γ) : Placed δ :=
  match f, x with
  | found f, found x => found (f x)
  | fault place cause, found _ => fault place cause
  | found _, fault place cause => fault place cause
  | fault p c, fault q d => if p ≤ q then fault p c else fault q d

instance : Applicative Placed where
  pure := found
  seq f x := both f (x ())

def run : Placed γ → Except DecodeFault γ
  | found x => .ok x
  | fault _ cause => .error cause

end Placed

namespace Record

variable {β γ : Type}

def occurrences (names : List String) (members : List (String × β)) : List (Nat × β) :=
  members.zipIdx.filterMap fun ((name, value), place) =>
    if names.contains name then some (place, value) else none

/-- The value of the one member that has one of some names; `absent` when there is none. -/
def member (members : List (String × β)) (names : List String)
    (read : β → Except DecodeFault γ) (absent : Placed γ) : Placed γ :=
  match occurrences names members with
  | [] => absent
  | (place, value) :: others =>
    match read value with
    | .error cause => .fault place cause
    | .ok x => match others with
      | [] => .found x
      | (second, _) :: _ => .fault second .shape

def required (members : List (String × β)) (name : String) (read : β → Except DecodeFault γ) :
    Placed γ :=
  member members [name] read (.fault members.length .shape)

def optional (members : List (String × β)) (name : String) (read : β → Except DecodeFault γ)
    (absent : γ) : Placed γ :=
  member members [name] read (.found absent)

def tag? (name : String) (read? : β → Option γ) (members : List (String × β)) : Option γ :=
  match occurrences [name] members with
  | [(_, value)] => read? value
  | _ => none

/-- Whether the text breaks off at a member, or its name cannot be kept. -/
def isBroken : String × Json → Bool
  | (_, .flaw .misnamed) => true
  | (_, j) => j.isCut

def refuse (bad : β → Bool) (members : List β) : Placed Unit :=
  match members.findIdx? bad with
  | some place => .fault place .shape
  | none => .found ()

end Record

/-- The members of a record in the order in which a list has their values. -/
structure Columns where
  names : List String
  /-- How many values a list needs.  Members that have a default may be left out at its end; others
  may not, even if a record may do without them. -/
  least : Nat

/-- Reads a list of values as the record that they stand for.  What is missing or left over at the end
of the list is a fault that comes after all others. -/
def Columns.read {β γ : Type} (columns : Columns) (read : List (String × β) → Placed γ)
    (values : List β) : Placed γ :=
  read (columns.names.zip values) <*
    if columns.least ≤ values.length ∧ values.length ≤ columns.names.length then .found ()
    else .fault values.length .shape

namespace Json

variable {γ : Type}

/-! ## Values -/

def text? : Json → Option String
  | text s => some s
  | _ => none

def asText : Json → Except DecodeFault String
  | text s => .ok s
  | _ => .error .shape

def asBool : Json → Except DecodeFault Bool
  | bool b => .ok b
  | _ => .error .shape

def asFloat : Json → Except DecodeFault Float
  | int n => .ok (Double.ofInt n)
  | float x => .ok x
  | _ => .error .shape

def asNat (bound : Nat) : Json → Except DecodeFault Nat
  | int n => if 0 ≤ n ∧ n ≤ bound then .ok n.toNat else .error .shape
  | _ => .error .shape

def asOption (read : Json → Except DecodeFault γ) : Json → Except DecodeFault (Option γ)
  | null => .ok none
  | j => (read j).map some

def asList (read : Json → Except DecodeFault γ) : Json → Except DecodeFault (List γ)
  | list items => items.mapM read
  | _ => .error .shape

def asMembers (read : List (String × Json) → Placed γ) : Json → Except DecodeFault γ
  | record members => (read members <* Record.refuse Record.isBroken members).run
  | _ => .error .shape

/-- Members, written as a record or as the list of their values. -/
def asRecord (columns : Columns) (read : List (String × Json) → Placed γ) :
    Json → Except DecodeFault γ
  | list values => (columns.read read values).run
  | j => asMembers read j

def asWhole (read : Json → Except DecodeFault γ) (j : Json) : Except DecodeFault γ :=
  if j.isFlawless then read j else .error .shape

theorem asWhole_of_isFlawless (read : Json → Except DecodeFault γ) {j : Json}
    (h : j.isFlawless = true) : asWhole read j = read j := by
  simp [asWhole, h]

def asEntry (read : Json → Except DecodeFault γ) (entry : String × Json) :
    Except DecodeFault (String × γ) :=
  (read entry.2).map fun x => (entry.1, x)

/-- A table by name.  Every member is read, and of two with one name the later one counts. -/
def asTable (read : Json → Except DecodeFault γ) : Json → Except DecodeFault (NameMap γ)
  | record members => (members.mapM (asEntry read)).map NameMap.ofPairs
  | _ => .error .shape

/-- Reads a text that holds a document.  Text behind the document is a fault that comes after all
faults of the document. -/
def decode (parse : Json → Except DecodeFault γ) (s : String) : Except DecodeFault γ := do
  let x ← parse (read s).1
  if (read s).2 then pure x else throw .shape

theorem decode_eq_ok_iff (parse : Json → Except DecodeFault γ) (s : String) (x : γ) :
    decode parse s = .ok x ↔ parse (read s).1 = .ok x ∧ (read s).2 = true := by
  unfold decode
  cases parse (read s).1 with
  | error cause => simp [bind, Except.bind]
  | ok y =>
    cases (read s).2 <;>
      simp [bind, Except.bind, pure, Except.pure, throw, throwThe, MonadExceptOf.throw]

/-- Reads a text that holds a document; `what` says in messages what kind of document. -/
def readAs (what : String) (parse : Json → Except DecodeFault γ) (s : String) : Except Fault γ :=
  (decode parse s).mapError fun fault => .validation (.document what fault)

def ofTable (write : γ → Json) (table : NameMap γ) : Json :=
  record (table.toList.map fun (name, x) => (name, write x))

end Json

end Grimoire
