/-! # Documents

The value of a JSON text.  A record keeps its members in the order they were written, repeated names
included, because reading an effect depends on both.  Whole numbers that fit 64 bits are kept apart
from other numbers: counts and ticks are read from the former only.

A text need not be a document all the way.  A place in it that holds no value holds a flaw, so that
what comes before the place can be read, and so that a value which nobody asks for does no harm.
-/

namespace Grimoire

/-- What stands in a text where no value does. -/
inductive Flaw where
  /-- A value that is written well and cannot be kept: a number that is too large, a text with half of
  a surrogate pair, or lists and records nested too deep. -/
  | illegible
  /-- A member whose name is a text that cannot be kept. -/
  | misnamed
  /-- The end of what can be read: from here on the text is no JSON. -/
  | cut
  deriving DecidableEq

inductive Json where
  | null
  | bool (value : Bool)
  | int (value : Int)
  | float (value : Float)
  | text (value : String)
  | list (items : List Json)
  | record (members : List (String × Json))
  | flaw (kind : Flaw)

namespace Json

/-! ## Flaws -/

mutual

def hasFlaw (kinds : List Flaw) : Json → Bool
  | flaw kind => kinds.contains kind
  | list items => hasFlawItems kinds items
  | record members => hasFlawMembers kinds members
  | null | bool _ | int _ | float _ | text _ => false

def hasFlawItems (kinds : List Flaw) : List Json → Bool
  | [] => false
  | x :: xs => hasFlaw kinds x || hasFlawItems kinds xs

def hasFlawMembers (kinds : List Flaw) : List (String × Json) → Bool
  | [] => false
  | (_, x) :: xs => hasFlaw kinds x || hasFlawMembers kinds xs

end

def isFlawless (j : Json) : Bool := !j.hasFlaw [.illegible, .misnamed, .cut]

def isCut (j : Json) : Bool := j.hasFlaw [.cut]

/-! ## Building -/

def ofList {β : Type} (write : β → Json) (xs : List β) : Json := list (xs.map write)

def ofOption {β : Type} (write : β → Json) : Option β → Json
  | none => null
  | some x => write x

def ofNat (n : Nat) : Json := int n

/-- A double; one that is not finite has no JSON form and is written `null`. -/
def ofFloat (x : Float) : Json := if x.isFinite then float x else null

end Json

end Grimoire
