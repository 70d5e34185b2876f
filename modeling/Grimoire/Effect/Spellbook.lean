import Grimoire.Effect.Document

/-! # Spellbooks

The effects that can be named by others.  Every effect stands under its own id, and nothing that was
registered is ever replaced or dropped.
-/

namespace Grimoire

structure Spellbook (α : Type) where
  effects : NameMap (Effect α) := ∅

namespace Spellbook

variable {α : Type}

def get? (b : Spellbook α) (id : String) : Option (Effect α) := b.effects[id]?

def contains (b : Spellbook α) (id : String) : Bool := b.effects.contains id

def size (b : Spellbook α) : Nat := b.effects.size

def ids (b : Spellbook α) : List String := b.effects.keys

/-- The effect with an id, which has to be an identifier before it is looked up. -/
def require (b : Spellbook α) (id : String) : Except Fault (Effect α) :=
  if Identifier.isValid id then
    match b.get? id with
    | some e => .ok e
    | none => .error (.unknownEffect id)
  else .error (.unknownEffect id)

/-- A spellbook with one more effect, if the effect has an id that is an identifier and new. -/
def register (b : Spellbook α) (e : Effect α) : Except Fault (Spellbook α) :=
  match e.id with
  | none => .error (.validation .anonymousEffect)
  | some id => do
    Vocabulary.checkIdentifier "effect id" id
    if b.contains id then .error (.validation (.duplicateEffect id))
    else .ok ⟨b.effects.insert id e⟩

/-- Registers effects up to the first that is refused, and counts them. -/
def registerAll : List (Effect α) → EStateM Fault (Spellbook α) Nat
  | [] => pure 0
  | e :: es => do
    match (← get).register e with
    | .error fault => throw fault
    | .ok b => do
      set b
      let count ← registerAll es
      pure (count + 1)

/-- Registers the effects of a document that lists them, and counts them. -/
def load (s : String) : EStateM Fault (Spellbook Float) Nat :=
  match Effect.readList s with
  | .error fault => throw fault
  | .ok effects => registerAll effects

end Spellbook

end Grimoire
