import Grimoire.Fault
import Grimoire.Names

/-! # Vocabularies

The names that effects may mention.  The stats are fixed; statuses, entity types, items, materials
and damage types belong to a `Vocabulary`.  Every check refuses a text that is no identifier before it
looks at the vocabulary, so a hostile name stays refused even where a vocabulary holds it.
-/

namespace Grimoire

def knownStats : List String :=
  ["health", "maxHealth", "mana", "maxMana", "stamina", "strength", "agility", "intelligence",
   "wisdom", "constitution", "speed", "armor", "magicResist", "attackPower", "spellPower",
   "critChance", "luck"]

structure Vocabulary where
  statuses : NameSet
  entityTypes : NameSet
  items : NameSet
  materials : NameSet
  damageTypes : NameSet

namespace Vocabulary

def names (xs : List String) : NameSet := Std.ExtTreeSet.ofList xs compare

def empty : Vocabulary := ⟨∅, ∅, ∅, ∅, ∅⟩

def standard : Vocabulary where
  statuses := names
    ["burning", "frozen", "slowed", "stunned", "poisoned", "bleeding", "blessed", "cursed",
     "silenced", "hasted", "shielded", "invisible", "rooted", "regenerating", "feared", "charmed",
     "weakened", "empowered", "confused", "sleeping", "petrified", "ethereal"]
  entityTypes := names
    ["wolf", "skeleton", "zombie", "elemental", "golem", "spirit", "slime", "treant", "imp",
     "familiar", "sheep", "frog", "rat", "crow", "illusion", "totem", "wall", "statue"]
  items := names
    ["health_potion", "mana_potion", "torch", "rope", "arrow", "gem", "scroll", "bread", "herb",
     "crystal_shard"]
  materials := names
    ["stone", "wood", "iron", "ice", "water", "lava", "sand", "glass", "gold", "dirt", "mud",
     "crystal", "grass", "obsidian"]
  damageTypes := names
    ["physical", "fire", "cold", "lightning", "poison", "psychic", "void", "holy", "necrotic",
     "acid", "force", "arcane"]

def extend (v : Vocabulary) (statuses entityTypes items materials damageTypes : List String) :
    Vocabulary :=
  ⟨v.statuses.insertMany statuses, v.entityTypes.insertMany entityTypes,
   v.items.insertMany items, v.materials.insertMany materials,
   v.damageTypes.insertMany damageTypes⟩

/-! ## Checks -/

/-- Accepts an identifier that is known; `refuse` gets the reason otherwise. -/
def checkName (refuse : String → Fault) (unknown : String) (known : Bool) (name : String) :
    Except Fault Unit :=
  match Identifier.rejection? name with
  | some r => .error (refuse r.message)
  | none => if known then .ok () else .error (refuse unknown)

def checkStat (name : String) : Except Fault Unit :=
  checkName (.invalidStat name) "not a known stat" (knownStats.contains name) name

def checkStatus (v : Vocabulary) (name : String) : Except Fault Unit :=
  checkName (.invalidStatus name) "not a registered status" (v.statuses.contains name) name

def checkEntityType (v : Vocabulary) (name : String) : Except Fault Unit :=
  checkName (.invalidEntityType name) "not a registered entity type" (v.entityTypes.contains name)
    name

def checkItem (v : Vocabulary) (name : String) : Except Fault Unit :=
  checkName (.invalidEntityType name) "not a registered item" (v.items.contains name) name

def checkMaterial (v : Vocabulary) (name : String) : Except Fault Unit :=
  checkName (.invalidMaterial name) "not a registered material" (v.materials.contains name) name

/-- Accepts an identifier; `what` says in messages what it is for. -/
def checkIdentifier (what name : String) : Except Fault Unit :=
  match Identifier.rejection? name with
  | some r => .error (.validation (.identifier what name r))
  | none => .ok ()

def checkDamageType (v : Vocabulary) (name : String) : Except Fault Unit :=
  match checkIdentifier "damage type" name with
  | .error fault => .error fault
  | .ok _ =>
    if v.damageTypes.contains name then .ok ()
    else .error (.validation (.unknownDamageType name))

end Vocabulary

end Grimoire
