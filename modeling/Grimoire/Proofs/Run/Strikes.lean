import Grimoire.Proofs.Run.Moves

/-! # Every action is a stroke

An action reads first and may fail while it does.  When it does not fail any more, it does one stroke.
`Cast.strikes_perform` says so of all actions, and that an action which has passed its static check
raises none of the faults that the check is there for.

`Cast.demand` is what an action reads before it asks a budget.  From there on nothing fails, so an
action that gets as far as asking is carried out.
-/

namespace Grimoire

open Run

variable {α : Type} [Scalar α]

namespace Cast

variable {c : Cast α} {target : EntityId} {passed : Prop} {s : Execution α}

/-! ## Reading -/

theorem reads_eval (e : Expr α) : (c.eval target e).Reads passed s :=
  .get_bind (.evaluation (e.raises_eval _))

theorem reads_evalNumber (e : Expr α) : (c.evalNumber target e).Reads passed s :=
  .get_bind (.evaluation (e.raises_evalNumber _))

theorem reads_evalBool (e : Expr α) : (c.evalBool target e).Reads passed s :=
  .get_bind (.evaluation (e.raises_evalBool _))

theorem reads_evalCount (what : String) (e : Expr α) :
    (c.evalCount target what e).Reads passed s := by
  refine .get_bind (.bind (.evaluation (e.raises_evalWhole _)) fun _ => ?_)
  split
  · exact .throw ⟨rfl, fun _ => rfl⟩
  · exact .pure rfl

theorem reads_expiry (what : String) (duration : Option (Expr α)) :
    (c.expiry target what duration).Reads passed s := by
  cases duration with
  | none => exact .pure rfl
  | some e =>
      refine .bind (reads_evalNumber e) fun _ => ?_
      split
      · exact .throw ⟨rfl, fun _ => rfl⟩
      · split
        · exact .pure rfl
        · exact .pure rfl

theorem reads_evalPoint (p : Coordinates α) : (c.evalPoint target p).Reads passed s := by
  refine .bind (reads_evalNumber p.x) fun _ => .bind (reads_evalNumber p.y) fun _ => ?_
  dsimp only
  split
  · exact .pure rfl
  · exact .throw ⟨rfl, fun _ => rfl⟩

theorem checkBounds_ok {operation : String} {p : Position α} {s' : Execution α}
    (h : checkBounds operation p s = .ok () s') : s.world.bounds.contains p = true ∧ s' = s := by
  unfold checkBounds at h
  rw [Run.get_bind] at h
  split at h
  · next inside => cases h; exact ⟨inside, rfl⟩
  · cases h

theorem reads_checkBounds (operation : String) (p : Position α) :
    (checkBounds operation p).Reads passed s := by
  refine .get_bind ?_
  split
  · exact .pure rfl
  · exact .throw ⟨rfl, fun _ => rfl⟩

omit [Scalar α] in
theorem reads_casterPosition (use : Anchor) : (c.casterPosition use).Reads passed s := by
  refine .get_bind ?_
  split
  · exact .throw ⟨rfl, fun _ => rfl⟩
  · exact .pure rfl

theorem reads_evalStacks (count : StackCount α) : (c.evalStacks target count).Reads passed s := by
  cases count with
  | all => exact .pure rfl
  | count e => exact .bind (reads_evalNumber e) fun _ => .pure rfl

theorem reads_pushDirection (source : Position α) (direction : Option (Coordinates α)) :
    (c.pushDirection target source direction).Reads passed s := by
  cases direction with
  | none => exact .bind (reads_casterPosition _) fun _ => .get_bind (.pure rfl)
  | some direction =>
      refine .bind (reads_evalPoint direction) fun _ => ?_
      split
      · exact .throw ⟨rfl, fun _ => rfl⟩
      · exact .pure rfl

theorem reads_pullAnchor (toward : Option (Coordinates α)) :
    (c.pullAnchor target toward).Reads passed s := by
  cases toward with
  | none => exact reads_casterPosition _
  | some toward => exact reads_evalPoint toward

theorem reads_evalPayload (payload : List (String × Expr α))
    (known : passed → ∀ entry ∈ payload,
      Vocabulary.checkIdentifier "payload key" entry.1 = .ok ()) :
    (c.evalPayload target payload).Reads passed s := by
  induction payload generalizing s with
  | nil => exact .pure rfl
  | cons entry rest ih =>
      have all (ok : passed) := List.forall_mem_cons.mp (known ok)
      refine .bind (.checked (Vocabulary.plain_checkIdentifier ..) fun ok => ⟨(), (all ok).1⟩)
        fun _ => .bind (reads_eval entry.2) fun _ => .bind (ih fun ok => (all ok).2) fun _ => ?_
      exact .pure rfl

theorem checked_of_evalPayload {payload : List (String × Expr α)} {s' : Execution α}
    {values : List (String × Value α)} (h : c.evalPayload target payload s = .ok values s') :
    ∀ entry ∈ values, Vocabulary.checkIdentifier "payload key" entry.1 = .ok () := by
  induction payload generalizing s values with
  | nil =>
      cases h
      simp
  | cons entry rest ih =>
      obtain ⟨key, e⟩ := entry
      obtain ⟨_, s₁, named, h⟩ := ok_of_bind h
      obtain ⟨v, s₂, -, h⟩ := ok_of_bind h
      obtain ⟨others, s₃, evaluated, answer⟩ := ok_of_bind h
      cases answer
      have checked := (check_ok named).1
      exact List.forall_mem_cons.mpr ⟨checked, ih evaluated⟩

theorem named_of_evalPayload {payload : List (String × Expr α)} {s' : Execution α}
    {values : List (String × Value α)} (h : c.evalPayload target payload s = .ok values s') :
    ∀ key ∈ NameMap.ofPairs values, Vocabulary.checkIdentifier "payload key" key = .ok () := by
  intro key listed
  unfold NameMap.ofPairs at listed
  rw [Std.ExtTreeMap.mem_ofList] at listed
  obtain ⟨entry, given, rfl⟩ := List.mem_map.mp (List.contains_iff_mem.mp listed)
  exact checked_of_evalPayload h entry given

/-! ## Touching -/

theorem commits {e e' : Entity α} {f : Report α → Report α}
    (found : s.world.entity? target = some e)
    (written : Write c.settings.vocabulary s.world.bounds target e e' f) :
    (Run.commit target e' f).Atomic passed (fun _ => Stroke c target none) s :=
  .of_eq rfl (.touch (.write found written))

omit [Scalar α] in
/-- A pool is changed wherever there is one, and nothing happens where there is none. -/
theorem changeHealth_ok [Quantity α] {P : Execution α → Prop} (target : EntityId) (f : Health α → Health α)
    (s : Execution α) (nothing : P s)
    (changed : ∀ e h, s.world.entity? target = some e → e.get? .health = some h →
      P { s with
        world := s.world.place target (e.put .health (f h))
        report := s.report.change (.health target h.current (f h).current) }) :
    ∃ s', changeHealth target f s = .ok () s' ∧ P s' := by
  unfold changeHealth
  cases found : s.world.entity? target with
  | none => exact ⟨s, onEntity_none found, nothing⟩
  | some e =>
      unfold onSlot
      rw [onEntity_some found]
      cases held : e.get? .health with
      | none => exact ⟨s, rfl, nothing⟩
      | some h => exact ⟨_, rfl, changed e h found held⟩

theorem touches_changeHealth (v : Vocabulary) (target : EntityId) (f : Health α → Health α)
    (s : Execution α)
    (written : ∀ e h, e.get? .health = some h →
      Write v s.world.bounds target e (e.put .health (f h))
        (Report.change (.health target h.current (f h).current))) :
    ∃ s', changeHealth target f s = .ok () s' ∧ Touch v target s s' :=
  changeHealth_ok target f s (.nothing s) fun e h found held => .write found (written e h held)

theorem restore_ok (c : Cast α) (target : EntityId) (amount : α) (s : Execution α) :
    ∃ s', restore target amount s = .ok () s' ∧ Stroke c target none s s' := by
  obtain ⟨s', changed, touched⟩ := touches_changeHealth c.settings.vocabulary target
    (·.heal amount) (s.countHealing amount) fun _ _ held => .heal amount held
  refine ⟨s', ?_, .restore amount touched⟩
  unfold restore
  rw [bind_ok (show Run.note _ s = .ok () (s.countHealing amount) from rfl)]
  exact changed

theorem strikes_restore (amount : α) :
    (restore target amount).Atomic passed (fun _ => Stroke c target none) s := by
  obtain ⟨s', run, stroke⟩ := c.restore_ok target amount s
  exact .of_eq run stroke

theorem allotDamage_eq (requested : α) :
    c.allotDamage target requested s =
      .ok (s.governor.damageLeft c.settings.limits requested)
        (s.grantDamage c.settings.limits target requested) := by
  unfold allotDamage Execution.grantDamage
  rw [bind_ok (show Run.govern _ s = .ok _ _ from rfl)]
  by_cases short : s.governor.damageLeft c.settings.limits requested < requested
  · simp only [if_pos short]
    rfl
  · simp only [if_neg short]
    rfl

theorem wound_ok (c : Cast α) (target : EntityId) (requested : α) (s : Execution α) :
    ∃ s', c.wound target requested s = .ok () s' ∧
      Stroke c target (some (.damage requested)) s s' := by
  obtain ⟨s', changed, touched⟩ := touches_changeHealth c.settings.vocabulary target
    (·.damage (s.governor.damageLeft c.settings.limits requested))
    (s.grantDamage c.settings.limits target requested) fun _ _ held => .damage _ held
  refine ⟨s', ?_, .wound requested touched⟩
  unfold wound
  rw [bind_ok (allotDamage_eq requested)]
  exact changed

theorem allotSpawns_eq (requested : Nat) :
    c.allotSpawns target requested s =
      .ok (s.governor.spawnsLeft c.settings.limits requested)
        (s.grantSpawns c.settings.limits target requested) := by
  unfold allotSpawns Execution.grantSpawns
  rw [bind_ok (show Run.govern _ s = .ok _ _ from rfl)]
  by_cases short : s.governor.spawnsLeft c.settings.limits requested < requested
  · simp only [if_pos short]
    rfl
  · simp only [if_neg short]
    rfl

omit [Scalar α] in
theorem times_spawnOne_ok (typeName : String) (itemId : Option String) (place : Position α)
    (n : Nat) (s : Execution α) :
    ∃ s', Run.times n (spawnOne typeName itemId place) s = .ok () s' := by
  induction n generalizing s with
  | zero => exact ⟨s, rfl⟩
  | succ n ih => exact ih _

omit [Scalar α] in
/-- What spawning so many entities counts, and what it leaves alone. -/
theorem times_spawnOne_counts {typeName : String} {itemId : Option String} {place : Position α}
    {n : Nat} {s' : Execution α}
    (spawned : Run.times n (spawnOne typeName itemId place) s = .ok () s') :
    s'.report.spawnCount = s.report.spawnCount + n ∧ s'.governor = s.governor ∧
      s'.report.statuses = s.report.statuses ∧ s'.report.clamps = s.report.clamps ∧
      s'.report.damageDealt = s.report.damageDealt := by
  induction n generalizing s with
  | zero =>
      cases spawned
      exact ⟨rfl, rfl, rfl, rfl, rfl⟩
  | succ n ih =>
      obtain ⟨count, kept⟩ := ih (s := s.addEntity typeName itemId place) spawned
      refine ⟨?_, kept⟩
      rw [count, Nat.add_comm n 1, ← Nat.add_assoc]
      rfl

/-- Entities that are asked for are spawned, as far as they are granted. -/
theorem spawns_ok (c : Cast α) (target : EntityId) (typeName : String) (itemId : Option String)
    (requested : Nat) (place : Position α) (s : Execution α)
    (inside : s.world.bounds.contains place = true)
    (known : c.settings.vocabulary.Offers typeName itemId) :
    ∃ s', (do
        let granted ← c.allotSpawns target requested
        Run.times granted (spawnOne typeName itemId place) : Run α Unit) s = .ok () s' ∧
      Stroke c target (some (.spawns requested)) s s' := by
  obtain ⟨s', spawned⟩ := times_spawnOne_ok typeName itemId place
    (s.governor.spawnsLeft c.settings.limits requested)
    (s.grantSpawns c.settings.limits target requested)
  refine ⟨s', ?_, .spawn typeName itemId place requested inside known spawned⟩
  rw [bind_ok (allotSpawns_eq requested)]
  exact spawned

theorem strikes_moveTo (operation : String) (goal : Position α) :
    (moveTo target operation goal).Atomic passed (fun _ => Stroke c target none) s := by
  refine .bind (reads_checkBounds ..) fun h => ?_
  obtain ⟨inside, rfl⟩ := checkBounds_ok h
  exact .onEntity (.touch (.nothing _)) fun e found => commits found (.move goal inside)

theorem strikes_setHealth (value : Health α → α) :
    (setHealth target value).Atomic passed (fun _ => Stroke c target none) s := by
  refine .onSlot (.touch (.nothing _)) fun e h found held => ?_
  split
  · exact .throw ⟨rfl, fun _ => rfl⟩
  · next h' set => exact commits found (.setHealth _ held set)

/-! ## Actions that ask for nothing -/

theorem strikes_applyStatus (status : String) (duration : Option (Expr α)) (count : Expr α)
    (known : passed → c.settings.vocabulary.checkStatus status = .ok ()) :
    (c.applyStatus target status duration count).Atomic passed
      (fun _ => Stroke c target none) s := by
  refine .bind (.checked (Vocabulary.plain_checkStatus ..) fun ok => ⟨(), known ok⟩) fun named => ?_
  refine .bind (reads_evalCount ..) fun _ => .bind (reads_expiry ..) fun _ => ?_
  split
  · exact .pure (.touch (.nothing _))
  · next some =>
      exact .onEntity (.touch (.nothing _)) fun e found =>
        commits found (.applyStatus _ _ _ (check_ok named).1 some)

theorem strikes_removeStatus (status : String) (count : StackCount α)
    (known : passed → c.settings.vocabulary.checkStatus status = .ok ()) :
    (c.removeStatus target status count).Atomic passed (fun _ => Stroke c target none) s := by
  refine .bind (.checked (Vocabulary.plain_checkStatus ..) fun ok => ⟨(), known ok⟩) fun named => ?_
  refine .bind (reads_evalStacks count) fun _ => ?_
  split
  · exact .pure (.touch (.nothing _))
  · exact .onSlot (.touch (.nothing _)) fun e table found held =>
      commits found (.removeStatus _ _ held (check_ok named).1)

theorem strikes_modifyStat (stat : String) (amount : Expr α) (duration : Option (Expr α))
    (known : passed → Vocabulary.checkStat stat = .ok ()) :
    (c.modifyStat target stat amount duration).Atomic passed
      (fun _ => Stroke c target none) s := by
  refine .bind (.checked (Vocabulary.plain_checkStat _) fun ok => ⟨(), known ok⟩) fun named => ?_
  refine .bind (reads_evalNumber amount) fun _ => .bind (reads_expiry ..) fun _ => ?_
  by_cases pool : stat = "health"
  · rw [if_pos pool]
    split
    · exact .throw ⟨rfl, fun _ => rfl⟩
    · exact strikes_setHealth _
  · rw [if_neg pool]
    by_cases maximum : stat = "maxHealth"
    · rw [if_pos maximum]
      exact .onSlot (.touch (.nothing _)) fun e h found held =>
        commits found (.adjustMax _ _ held)
    · rw [if_neg maximum]
      exact .onEntity (.touch (.nothing _)) fun e found =>
        commits found (.changeStat _ _ _ (check_ok named).1 pool maximum)

theorem strikes_setStat (stat : String) (value : Expr α)
    (known : passed → Vocabulary.checkStat stat = .ok ()) :
    (c.setStat target stat value).Atomic passed (fun _ => Stroke c target none) s := by
  refine .bind (.checked (Vocabulary.plain_checkStat _) fun ok => ⟨(), known ok⟩) fun named => ?_
  refine .bind (reads_evalNumber value) fun _ => ?_
  by_cases pool : stat = "health"
  · rw [if_pos pool]
    exact strikes_setHealth _
  · rw [if_neg pool]
    by_cases maximum : stat = "maxHealth"
    · rw [if_pos maximum]
      exact .onSlot (.touch (.nothing _)) fun e h found held => commits found (.setMax _ held)
    · rw [if_neg maximum]
      exact .onEntity (.touch (.nothing _)) fun e found =>
        commits found (.setStat _ _ (check_ok named).1 pool maximum)

theorem strikes_push (direction : Option (Coordinates α)) (distance : Expr α) :
    (c.push target direction distance).Atomic passed (fun _ => Stroke c target none) s := by
  refine .bind (reads_evalNumber distance) fun _ => .get_bind ?_
  split
  · exact .pure (.touch (.nothing _))
  · exact .bind (reads_pushDirection ..) fun _ => strikes_moveTo ..

theorem strikes_pull (toward : Option (Coordinates α)) (distance : Expr α) :
    (c.pull target toward distance).Atomic passed (fun _ => Stroke c target none) s := by
  refine .bind (reads_evalNumber distance) fun _ => .get_bind ?_
  split
  · exact .pure (.touch (.nothing _))
  · refine .bind (reads_pullAnchor toward) fun _ => ?_
    dsimp only
    split
    · exact .pure (.touch (.nothing _))
    · exact strikes_moveTo ..

theorem strikes_transformEntity (toType : String) (duration : Option (Expr α))
    (known : passed → c.settings.vocabulary.checkEntityType toType = .ok ()) :
    (c.transformEntity target toType duration).Atomic passed
      (fun _ => Stroke c target none) s := by
  refine .bind (.checked (Vocabulary.plain_checkEntityType ..) fun ok => ⟨(), known ok⟩)
    fun named => .bind (reads_expiry ..) fun _ => ?_
  exact .onEntity (.touch (.nothing _)) fun e found =>
    commits found (.transform _ _ (check_ok named).1)

theorem strikes_transformMaterial (source result : String)
    (known : passed → c.settings.vocabulary.checkMaterial source = .ok ())
    (known' : passed → c.settings.vocabulary.checkMaterial result = .ok ()) :
    (c.transformMaterial target source result).Atomic passed (fun _ => Stroke c target none) s := by
  refine .bind (.checked (Vocabulary.plain_checkMaterial ..) fun ok => ⟨(), known ok⟩)
    fun former => ?_
  refine .bind (.checked (Vocabulary.plain_checkMaterial ..) fun ok => ⟨(), known' ok⟩)
    fun named => ?_
  refine .onEntity (.touch (.nothing _)) fun e found => ?_
  split
  · next held => exact commits found (.material _ _ held (check_ok former).1 (check_ok named).1)
  · exact .pure (.touch (.nothing _))

theorem strikes_emit {event : Event α} (named : event.Named) :
    (emit event).Atomic passed (fun _ => Stroke c target none) s := by
  refine .get_bind ?_
  split
  · exact .throw ⟨rfl, fun _ => rfl⟩
  · next world room => exact .of_eq rfl (.emit event world room named)

/-! ## Actions that ask -/

def spawnOrder (c : Cast α) (target : EntityId) (count : Expr α)
    (place : Option (Coordinates α)) : Run α (Nat × Position α) := do
  let requested ← c.evalCount target "spawn.count" count
  let place ← match place with
    | some place => c.evalPoint target place
    | none => c.casterPosition .spawn
  checkBounds "spawn" place
  pure (requested, place)

/-- What an action asks a budget for, once it has read and checked what it needs.  Damage below zero
heals, and asks for nothing. -/
def demand (c : Cast α) (target : EntityId) : Action α → Run α (Option (Demand α))
  | .dealDamage damageType amount => do
    Run.check (c.settings.vocabulary.checkDamageType damageType)
    let requested ← c.evalNumber target amount
    pure (if requested < 0 then none else some (.damage requested))
  | .spawnEntity entityType count place => do
    Run.check (c.settings.vocabulary.checkEntityType entityType)
    let order ← c.spawnOrder target count place
    pure (some (.spawns order.1))
  | .spawnItem itemId count place => do
    Run.check (c.settings.vocabulary.checkItem itemId)
    let order ← c.spawnOrder target count place
    pure (some (.spawns order.1))
  | _ => pure none

/-- What an action asks a budget for in a state; nothing if it fails before. -/
def demand? (c : Cast α) (target : EntityId) (action : Action α) (s : Execution α) :
    Option (Demand α) :=
  match c.demand target action s with
  | .ok demand _ => demand
  | .error .. => none

theorem demand?_of_ok {action : Action α} {d : Option (Demand α)} {s' : Execution α}
    (h : c.demand target action s = .ok d s') : c.demand? target action s = d := by
  simp only [demand?, h]

/-- Spawning is an order that is carried out as far as it is granted. -/
theorem spawn_eq (typeName : String) (itemId : Option String) (count : Expr α)
    (place : Option (Coordinates α)) :
    c.spawn target typeName itemId count place = (do
      let order ← c.spawnOrder target count place
      let granted ← c.allotSpawns target order.1
      Run.times granted (spawnOne typeName itemId order.2)) := by
  unfold spawn spawnOrder
  cases place <;> simp only [bind_assoc, pure_bind]

theorem reads_spawnOrder (count : Expr α) (place : Option (Coordinates α)) :
    (c.spawnOrder target count place).Reads passed s := by
  refine .bind (reads_evalCount ..) fun _ => ?_
  cases place with
  | none =>
      exact .bind (reads_casterPosition _) fun _ => .bind (reads_checkBounds ..) fun _ => .pure rfl
  | some place =>
      exact .bind (reads_evalPoint place) fun _ => .bind (reads_checkBounds ..) fun _ => .pure rfl

theorem inside_of_spawnOrder {count : Expr α} {place : Option (Coordinates α)}
    {order : Nat × Position α} {s' : Execution α}
    (h : c.spawnOrder target count place s = .ok order s') :
    s'.world.bounds.contains order.2 = true := by
  obtain ⟨requested, s₁, -, h⟩ := ok_of_bind h
  have checked (p : Position α) (s : Execution α)
      (h : (do checkBounds "spawn" p; pure (requested, p) : Run α _) s = .ok order s') :
      s'.world.bounds.contains order.2 = true := by
    obtain ⟨_, s₁, bounded, answer⟩ := ok_of_bind h
    obtain ⟨inside, rfl⟩ := checkBounds_ok bounded
    cases answer
    exact inside
  cases place with
  | none =>
      obtain ⟨p, s₂, -, h⟩ := ok_of_bind h
      exact checked p s₂ h
  | some place =>
      obtain ⟨p, s₂, -, h⟩ := ok_of_bind h
      exact checked p s₂ h

theorem strikes_dealDamage (damageType : String) (amount : Expr α)
    (known : passed → c.settings.vocabulary.checkDamageType damageType = .ok ()) :
    (c.dealDamage target damageType amount).Atomic passed
      (fun _ => Stroke c target (c.demand? target (.dealDamage damageType amount) s)) s := by
  refine .bind (.checked (Vocabulary.plain_checkDamageType ..) fun ok => ⟨(), known ok⟩)
    fun named => ?_
  obtain ⟨-, rfl⟩ := check_ok named
  refine .bind (reads_evalNumber amount) fun {requested _} evaluated => ?_
  have asked : c.demand? target (.dealDamage damageType amount) _ =
      if requested < 0 then none else some (.damage requested) :=
    demand?_of_ok ((bind_ok named).trans (bind_ok evaluated))
  rw [asked]
  split
  · exact strikes_restore _
  · obtain ⟨s', run, stroke⟩ := c.wound_ok target _ _
    exact .of_eq run stroke

theorem strikes_spawn (typeName : String) (itemId : Option String) (count : Expr α)
    (place : Option (Coordinates α)) {demand : Option (Demand α)}
    (known : c.settings.vocabulary.Offers typeName itemId)
    (asked : ∀ {order s'}, c.spawnOrder target count place s = .ok order s' →
      demand = some (.spawns order.1)) :
    (c.spawn target typeName itemId count place).Atomic passed
      (fun _ => Stroke c target demand) s := by
  rw [spawn_eq]
  refine .bind (reads_spawnOrder count place) fun ordered => ?_
  rw [asked ordered]
  obtain ⟨s', run, stroke⟩ := c.spawns_ok target typeName itemId _ _ _
    (inside_of_spawnOrder ordered) known
  exact .of_eq run stroke

/-! ## All actions -/

/-- Every action acts by one stroke, which makes the demand of the action. It fails for no ceiling, and
for nothing that its static check excludes. -/
theorem strikes_perform (c : Cast α) (target : EntityId) (action : Action α) (s : Execution α) :
    (c.perform target action).Atomic (action.check c.settings.vocabulary = .ok ())
      (fun _ => Stroke c target (c.demand? target action s)) s := by
  cases action with
  | dealDamage => exact strikes_dealDamage _ _ fun ok => (Fault.ok_of_seq ok).1
  | heal =>
      refine .bind (reads_evalNumber _) fun _ => ?_
      split
      · exact .throw ⟨rfl, fun _ => rfl⟩
      · exact strikes_restore _
  | applyStatus => exact strikes_applyStatus _ _ _ fun ok => (Fault.ok_of_seq ok).1
  | removeStatus => exact strikes_removeStatus _ _ fun ok => (Fault.ok_of_seq ok).1
  | modifyStat => exact strikes_modifyStat _ _ _ fun ok => (Fault.ok_of_seq ok).1
  | setStat => exact strikes_setStat _ _ fun ok => (Fault.ok_of_seq ok).1
  | teleport destination =>
      exact .bind (reads_evalPoint destination) fun _ => strikes_moveTo ..
  | push => exact strikes_push ..
  | pull => exact strikes_pull ..
  | spawnEntity =>
      refine .bind (.checked (Vocabulary.plain_checkEntityType ..) fun ok =>
        ⟨(), (Fault.ok_of_seq ok).1⟩) fun named => ?_
      obtain ⟨known, rfl⟩ := check_ok named
      exact strikes_spawn _ _ _ _ known fun ordered =>
        demand?_of_ok ((bind_ok named).trans (bind_ok ordered))
  | spawnItem =>
      refine .bind (.checked (Vocabulary.plain_checkItem ..) fun ok =>
        ⟨(), (Fault.ok_of_seq ok).1⟩) fun named => ?_
      obtain ⟨known, rfl⟩ := check_ok named
      exact strikes_spawn _ _ _ _ ⟨rfl, known⟩ fun ordered =>
        demand?_of_ok ((bind_ok named).trans (bind_ok ordered))
  | transformEntity => exact strikes_transformEntity _ _ fun ok => (Fault.ok_of_seq ok).1
  | transformMaterial =>
      exact strikes_transformMaterial _ _ (fun ok => (Fault.ok_of_seq ok).1)
        fun ok => (Fault.ok_of_seq ok).2
  | emitEvent eventType payload =>
      refine .bind (.checked (Vocabulary.plain_checkIdentifier ..) fun ok =>
        ⟨(), (Fault.ok_of_seq ok).1⟩) fun named => ?_
      refine .bind (reads_evalPayload _ fun ok entry listed => ?_) fun evaluated =>
        strikes_emit ⟨(check_ok named).1, named_of_evalPayload evaluated⟩
      refine Fault.ok_of_forM (Fault.ok_of_seq ok).2 entry.1 ?_
      rw [← Std.ExtTreeMap.map_fst_toList_eq_keys]
      exact List.mem_map_of_mem listed

theorem perform_of_demand? {action : Action α} {d : Demand α}
    (h : c.demand? target action s = some d) : ∃ s', c.perform target action s = .ok () s' := by
  unfold demand? at h
  split at h
  · next demand s₁ asked =>
      subst h
      cases action with
      | dealDamage =>
          obtain ⟨_, s₂, named, rest⟩ := ok_of_bind asked
          obtain ⟨requested, s₃, evaluated, answer⟩ := ok_of_bind rest
          obtain ⟨s', run, -⟩ := c.wound_ok target requested s₃
          refine ⟨s', ?_⟩
          change c.dealDamage target _ _ s = _
          unfold dealDamage
          rw [bind_ok named, bind_ok evaluated]
          have positive : ¬ requested < 0 := by
            intro negative
            rw [if_pos negative] at answer
            cases answer
          rw [if_neg positive]
          exact run
      | spawnEntity =>
          obtain ⟨_, s₂, named, rest⟩ := ok_of_bind asked
          obtain ⟨order, s₃, ordered, -⟩ := ok_of_bind rest
          obtain ⟨s', run, -⟩ := c.spawns_ok target _ none order.1 order.2 s₃
            (inside_of_spawnOrder ordered) (check_ok named).1
          refine ⟨s', ?_⟩
          change c.spawnEntity target _ _ _ s = _
          unfold spawnEntity
          rw [bind_ok named, spawn_eq, bind_ok ordered]
          exact run
      | spawnItem =>
          obtain ⟨_, s₂, named, rest⟩ := ok_of_bind asked
          obtain ⟨order, s₃, ordered, -⟩ := ok_of_bind rest
          obtain ⟨s', run, -⟩ := c.spawns_ok target _ (some _) order.1 order.2 s₃
            (inside_of_spawnOrder ordered) ⟨rfl, (check_ok named).1⟩
          refine ⟨s', ?_⟩
          change c.spawnItem target _ _ _ s = _
          unfold spawnItem
          rw [bind_ok named, spawn_eq, bind_ok ordered]
          exact run
      | _ => cases asked
  · cases h

/-- Every action acts by moves, also when it fails, and it fails for no ceiling. -/
theorem perform_takes (c : Cast α) (target : EntityId) (action : Action α) (s : Execution α) :
    (c.perform target action).Takes (Move c target) s :=
  (c.strikes_perform target action s).takes .draw Stroke.moves

end Cast

end Grimoire
