import Grimoire.Proofs.Run.Calculus

/-! # The moves of actions

What an action does is a single stroke.  It writes the target, or leaves it alone, and may count
healing before it does; or it adds an event; or it asks a budget, for damage or for spawns, and does as
much as is granted.  `Write` lists how the target is written and what is recorded of it.

A stroke is made of moves, each of which changes one thing: a property of every move is a property of
every stroke.
-/

namespace Grimoire

open Relation (ReflTransGen)

variable {α : Type} [Scalar α]

/-- Whether a vocabulary has the type of an entity that is to be spawned, or the item that it is to
carry. -/
def Vocabulary.Offers (v : Vocabulary) (typeName : String) : Option String → Prop
  | none => v.checkEntityType typeName = .ok ()
  | some itemId => typeName = Cast.itemType ∧ v.checkItem itemId = .ok ()

/-- Whether an event and everything in its payload goes under a checked name. -/
structure Event.Named {α : Type} (event : Event α) : Prop where
  name : Vocabulary.checkIdentifier "event type" event.name = .ok ()
  payload : ∀ key ∈ event.payload, Vocabulary.checkIdentifier "payload key" key = .ok ()

/-- How an action rewrites the target, and what it writes into the report. -/
inductive Write (v : Vocabulary) (bounds : Bounds α) (target : EntityId) :
    Entity α → Entity α → (Report α → Report α) → Prop where
  | heal {e h} (amount : α) (held : e.get? .health = some h) :
      Write v bounds target e (e.put .health (h.heal amount))
        (Report.change (.health target h.current (h.heal amount).current))
  | damage {e h} (amount : α) (held : e.get? .health = some h) :
      Write v bounds target e (e.put .health (h.damage amount))
        (Report.change (.health target h.current (h.damage amount).current))
  | setHealth {e h h'} (value : α) (held : e.get? .health = some h)
      (set : h.setCurrent? value = some h') :
      Write v bounds target e (e.put .health h')
        (Report.change (.health target h.current h'.current))
  | adjustMax {e h} (amount : α) (expiresAt : Option Nat) (held : e.get? .health = some h) :
      Write v bounds target e (e.put .health (h.adjustMax amount expiresAt))
        (Report.change (.maxHealth target h.max (h.adjustMax amount expiresAt).max expiresAt))
  | setMax {e h} (value : α) (held : e.get? .health = some h) :
      Write v bounds target e (e.put .health (h.setMax value))
        (Report.change (.maxHealth target h.max (h.setMax value).max none))
  | applyStatus {e} (status : String) (count : Nat) (expiresAt : Option Nat)
      (known : v.checkStatus status = .ok ()) (some : count ≠ 0) :
      Write v bounds target e (e.put .statuses (e.statusTable.apply status count expiresAt))
        (Report.status ⟨target, status, count,
          (e.statusTable.apply status count expiresAt).stackCount status⟩)
  | removeStatus {e table} (status : String) (requested : Option Nat)
      (held : e.get? .statuses = some table) (known : v.checkStatus status = .ok ()) :
      Write v bounds target e (e.put .statuses (table.remove status requested)) fun r =>
        if table.removable status requested = 0 then r
        else r.change (.statusRemoved target status (table.removable status requested))
  | changeStat {e} (stat : String) (amount : α) (expiresAt : Option Nat)
      (known : Vocabulary.checkStat stat = .ok ()) (pool : stat ≠ "health")
      (maximum : stat ≠ "maxHealth") :
      Write v bounds target e (e.put .stats (e.statBlock.change stat amount expiresAt))
        (Report.change (.stat target stat (e.statBlock.effective stat)
          ((e.statBlock.change stat amount expiresAt).effective stat) expiresAt))
  | setStat {e} (stat : String) (value : α) (known : Vocabulary.checkStat stat = .ok ())
      (pool : stat ≠ "health") (maximum : stat ≠ "maxHealth") :
      Write v bounds target e (e.put .stats (e.statBlock.setBase stat value))
        (Report.change (.stat target stat (e.statBlock.effective stat) value none))
  | move {e} (goal : Position α) (inside : bounds.contains goal = true) :
      Write v bounds target e (e.put .position goal)
        (Report.change (.moved target (e.get? .position) goal))
  | transform {e} (toType : String) (expiresAt : Option Nat)
      (known : v.checkEntityType toType = .ok ()) :
      Write v bounds target e (e.transform toType expiresAt)
        (Report.change (.transformed target e.typeName toType expiresAt))
  | material {e} (source result : String) (held : e.get? .material = some source)
      (former : v.checkMaterial source = .ok ()) (known : v.checkMaterial result = .ok ()) :
      Write v bounds target e (e.put .material result)
        (Report.change (.material target source result))

/-- A write is recorded among the changes and the statuses, and nowhere else. -/
theorem Write.report_eq {v : Vocabulary} {bounds : Bounds α} {target : EntityId} {e e' : Entity α}
    {f : Report α → Report α} (h : Write v bounds target e e' f) (r : Report α) :
    ∃ changes statuses, f r = { r with changes := changes, statuses := statuses } := by
  cases h with
  | removeStatus =>
      dsimp only
      split
      · exact ⟨r.changes, r.statuses, rfl⟩
      · exact ⟨_, r.statuses, rfl⟩
  | _ => exact ⟨_, _, rfl⟩

/-! ## Grants -/

/-- What an action asks of a budget. -/
inductive Demand (α : Type) where
  | damage (amount : α)
  | spawns (count : Nat)

namespace Execution

def countHealing (amount : α) (s : Execution α) : Execution α :=
  { s with report := { s.report with healingDone := s.report.healingDone + amount } }

/-- The state when damage has been counted as far as its ceiling allows. -/
def grantDamage (limits : Limits α) (target : EntityId) (requested : α) (s : Execution α) :
    Execution α :=
  let granted := s.governor.damageLeft limits requested
  { s with
    governor := { s.governor with damage := s.governor.damage + granted }
    report := { s.report with
      clamps :=
        if granted < requested then
          s.report.clamps.push ⟨.damage, requested, granted, some target⟩
        else s.report.clamps
      damageDealt := s.report.damageDealt + granted } }

/-- The state when spawns have been counted as far as their ceiling allows. -/
def grantSpawns (limits : Limits α) (target : EntityId) (requested : Nat) (s : Execution α) :
    Execution α :=
  let granted := s.governor.spawnsLeft limits requested
  { s with
    governor := { s.governor with spawns := s.governor.spawns + granted }
    report := { s.report with
      clamps :=
        if granted < requested then
          s.report.clamps.push ⟨.spawns, Scalar.ofNat requested, Scalar.ofNat granted, some target⟩
        else s.report.clamps } }

def addEntity (typeName : String) (itemId : Option String) (place : Position α)
    (s : Execution α) : Execution α :=
  { s with
    world :=
      (s.world.spawn fun id => Cast.furnish place itemId { id := id, typeName := typeName }).2
    report := { s.report with
      spawned := s.report.spawned.push s.world.nextId
      spawnCount := s.report.spawnCount + 1
      changes := s.report.changes.push (.spawned s.world.nextId typeName place) } }

omit [Scalar α] in
theorem entity?_addEntity (typeName : String) (itemId : Option String) (place : Position α)
    (s : Execution α) :
    (s.addEntity typeName itemId place).world.entity? s.world.nextId =
      some (Cast.furnish place itemId { id := s.world.nextId, typeName := typeName }) := by
  have added := s.world.entity?_spawn fun id =>
    Cast.furnish place itemId { id := id, typeName := typeName }
  cases itemId <;> exact added

omit [Scalar α] in
theorem entity?_addEntity_of_ne (typeName : String) (itemId : Option String) (place : Position α)
    {s : Execution α} {id : EntityId} (h : s.world.nextId ≠ id) :
    (s.addEntity typeName itemId place).world.entity? id = s.world.entity? id :=
  s.world.entity?_spawn_of_ne
    (fun id => Cast.furnish place itemId { id := id, typeName := typeName }) h

end Execution

/-! ## Moves -/

/-- One move of an action on a target. -/
inductive Move (c : Cast α) (target : EntityId) : Execution α → Execution α → Prop where
  | draw {s s'} (drawn : s.Drawn s') : Move c target s s'
  | restore {s} (amount : α) : Move c target s (s.countHealing amount)
  | wound {s} (requested : α) : Move c target s (s.grantDamage c.settings.limits target requested)
  | allot {s} (requested : Nat) : Move c target s (s.grantSpawns c.settings.limits target requested)
  | spawn {s} (typeName : String) (itemId : Option String) (place : Position α)
      (inside : s.world.bounds.contains place = true)
      (known : c.settings.vocabulary.Offers typeName itemId) :
      Move c target s (s.addEntity typeName itemId place)
  | emit {s} (event : Event α) (world : World α) (room : s.world.emit? event = some world)
      (named : event.Named) :
      Move c target s
        { s with world := world, report := { s.report with events := s.report.events.push event } }
  | write {s e e' f} (found : s.world.entity? target = some e)
      (written : Write c.settings.vocabulary s.world.bounds target e e' f) :
      Move c target s { s with world := s.world.place target e', report := f s.report }

/-! ## Strokes -/

/-- What becomes of a target: it is written, or nothing is done to it. -/
inductive Touch (v : Vocabulary) (target : EntityId) : Execution α → Execution α → Prop where
  | nothing (s) : Touch v target s s
  | write {s e e' f} (found : s.world.entity? target = some e)
      (written : Write v s.world.bounds target e e' f) :
      Touch v target s { s with world := s.world.place target e', report := f s.report }

/-- Everything that an action does once it has read what it needs, and what it asks for. -/
inductive Stroke (c : Cast α) (target : EntityId) :
    Option (Demand α) → Execution α → Execution α → Prop where
  | touch {s s'} (touched : Touch c.settings.vocabulary target s s') : Stroke c target none s s'
  | restore {s s'} (amount : α)
      (touched : Touch c.settings.vocabulary target (s.countHealing amount) s') :
      Stroke c target none s s'
  | emit {s} (event : Event α) (world : World α) (room : s.world.emit? event = some world)
      (named : event.Named) :
      Stroke c target none s
        { s with world := world, report := { s.report with events := s.report.events.push event } }
  | wound {s s'} (requested : α)
      (touched : Touch c.settings.vocabulary target
        (s.grantDamage c.settings.limits target requested) s') :
      Stroke c target (some (.damage requested)) s s'
  | spawn {s s'} (typeName : String) (itemId : Option String) (place : Position α)
      (requested : Nat) (inside : s.world.bounds.contains place = true)
      (known : c.settings.vocabulary.Offers typeName itemId)
      (spawned : Run.times (s.governor.spawnsLeft c.settings.limits requested)
        (Cast.spawnOne typeName itemId place) (s.grantSpawns c.settings.limits target requested) =
          .ok () s') :
      Stroke c target (some (.spawns requested)) s s'

variable {c : Cast α} {target : EntityId}

/-- A new entity after the other: spawning leaves the bounds alone, so a place that was inside of them
stays so. -/
theorem Move.spawns {s s' : Execution α} {typeName : String} {itemId : Option String}
    {place : Position α} {n : Nat} (inside : s.world.bounds.contains place = true)
    (known : c.settings.vocabulary.Offers typeName itemId)
    (spawned : Run.times n (Cast.spawnOne typeName itemId place) s = .ok () s') :
    ReflTransGen (Move c target) s s' := by
  induction n generalizing s with
  | zero =>
      cases spawned
      exact .refl
  | succ n ih => exact .head (.spawn typeName itemId place inside known) (ih inside spawned)

theorem Touch.moves {s s' : Execution α} (h : Touch c.settings.vocabulary target s s') :
    ReflTransGen (Move c target) s s' := by
  cases h with
  | nothing => exact .refl
  | write found written => exact .single (.write found written)

theorem Stroke.moves {demand : Option (Demand α)} {s s' : Execution α}
    (h : Stroke c target demand s s') : ReflTransGen (Move c target) s s' := by
  cases h with
  | touch touched => exact touched.moves
  | restore amount touched => exact .head (.restore amount) touched.moves
  | emit event world room named => exact .single (.emit event world room named)
  | wound requested touched => exact .head (.wound requested) touched.moves
  | spawn typeName itemId place requested inside known spawned =>
      exact .head (.allot requested) (Move.spawns inside known spawned)

theorem Stroke.keeps {β : Type} {f : Execution α → β} {demand : Option (Demand α)}
    {s s' : Execution α} (h : Stroke c target demand s s')
    (move : ∀ {s s'}, Move c target s s' → f s' = f s) : f s' = f s := by
  have moves := h.moves
  clear h
  induction moves with
  | refl => rfl
  | tail _ last ih => exact (move last).trans ih

end Grimoire
