import Grimoire.Proofs.Call.Account
import Grimoire.Proofs.World.Mentions

/-! # The names that calls write

A call may be of anything: of an effect that was never checked, of operations that somebody made up, in
a world that mentions whatever it likes, under a vocabulary that lists hostile names.  Still, a name
that the call adds to an entity or to its report is an identifier, and it is one that the vocabulary
knows for that use.  The checks that see to it are those that every action makes of its own names when
it is run, so what carries the proof is what the moves of an action say about them.
-/

namespace Grimoire

variable {α : Type}

/-! ## Names that may be written -/

namespace Vocabulary

/-- Whether a name is one that is known for some use.  Events and payloads are not held to a list. -/
def Knows (v : Vocabulary) : NameUse → String → Prop
  | .stat, name => name ∈ knownStats
  | .status, name => name ∈ v.statuses
  | .entityType, name => name ∈ v.entityTypes
  | .item, name => name ∈ v.items
  | .material, name => name ∈ v.materials
  | .eventType, _ | .payloadKey, _ => True

/-- Whether a name may be written for some use: it is an identifier, and it is known. -/
structure Admits (v : Vocabulary) (use : NameUse) (name : String) : Prop where
  identifier : Identifier.rejection? name = none
  known : v.Knows use name

theorem ok_of_checkName {refuse : String → Fault} {unknown name : String} {known : Bool}
    (h : checkName refuse unknown known name = .ok ()) :
    Identifier.rejection? name = none ∧ known = true := by
  unfold checkName at h
  cases rejected : Identifier.rejection? name with
  | some r => simp [rejected] at h
  | none =>
      cases known with
      | true => exact ⟨rfl, rfl⟩
      | false => simp [rejected] at h

theorem ok_of_checkIdentifier {what name : String} (h : checkIdentifier what name = .ok ()) :
    Identifier.rejection? name = none := by
  unfold checkIdentifier at h
  cases rejected : Identifier.rejection? name with
  | some r => simp [rejected] at h
  | none => rfl

variable {v : Vocabulary} {name : String}

theorem admits_stat (h : checkStat name = .ok ()) : v.Admits .stat name := by
  obtain ⟨identifier, known⟩ := ok_of_checkName h
  exact ⟨identifier, List.contains_iff_mem.mp known⟩

theorem admits_status (h : v.checkStatus name = .ok ()) : v.Admits .status name := by
  obtain ⟨identifier, known⟩ := ok_of_checkName h
  exact ⟨identifier, Std.ExtTreeSet.mem_iff_contains.mpr known⟩

theorem admits_entityType (h : v.checkEntityType name = .ok ()) : v.Admits .entityType name := by
  obtain ⟨identifier, known⟩ := ok_of_checkName h
  exact ⟨identifier, Std.ExtTreeSet.mem_iff_contains.mpr known⟩

theorem admits_item (h : v.checkItem name = .ok ()) : v.Admits .item name := by
  obtain ⟨identifier, known⟩ := ok_of_checkName h
  exact ⟨identifier, Std.ExtTreeSet.mem_iff_contains.mpr known⟩

theorem admits_material (h : v.checkMaterial name = .ok ()) : v.Admits .material name := by
  obtain ⟨identifier, known⟩ := ok_of_checkName h
  exact ⟨identifier, Std.ExtTreeSet.mem_iff_contains.mpr known⟩

end Vocabulary

/-- Whether an entity that a call has spawned is an item, by its type and by what it carries. -/
structure Report.IsItem (r : Report α) (w' : World α) (id : EntityId) (typeName : String) :
    Prop where
  type : typeName = Cast.itemType
  spawned : id ∈ r.spawned
  carries : w'.Carries id

/-- Whether a name in an entity was there before a call, or the call was allowed to write it, or it is
the type of an item. -/
def Report.Vouches (r : Report α) (v : Vocabulary) (w w' : World α) (id : EntityId)
    (use : NameUse) (name : String) : Prop :=
  (∃ e, w.entity? id = some e ∧ e.Mentions use name) ∨ v.Admits use name ∨
    (use = .entityType ∧ r.IsItem w' id name)

/-! ## Names in reports -/

namespace Change

/-- The names that a change says were written, but for the types of what was spawned. -/
def names : Change α → List (NameUse × String)
  | stat _ name .. => [(.stat, name)]
  | statusRemoved _ name _ => [(.status, name)]
  | transformed _ _ result _ => [(.entityType, result)]
  | material _ source result => [(.material, source), (.material, result)]
  | health .. | maxHealth .. | moved .. | spawned .. => []

def spawned? : Change α → Option (EntityId × String)
  | spawned entity typeName _ => some (entity, typeName)
  | _ => none

/-- The entity that was turned into something else, and what it was before. -/
def former? : Change α → Option (EntityId × String)
  | transformed target source .. => some (target, source)
  | _ => none

end Change

/-- Whether an event and everything in its payload goes under a name that may be written. -/
structure Event.Admitted (v : Vocabulary) (event : Event α) : Prop where
  name : v.Admits .eventType event.name
  payload : ∀ key ∈ event.payload, v.Admits .payloadKey key

theorem Event.Named.admitted {v : Vocabulary} {event : Event α} (h : event.Named) :
    event.Admitted v where
  name := ⟨Vocabulary.ok_of_checkIdentifier h.name, trivial⟩
  payload key kept := ⟨Vocabulary.ok_of_checkIdentifier (h.payload key kept), trivial⟩

/-! ## Writes -/

section

variable [Scalar α] {v : Vocabulary} {bounds : Bounds α} {target : EntityId} {e e' : Entity α}
  {f : Report α → Report α}

theorem Write.mentions (h : Write v bounds target e e' f) {use : NameUse} {name : String}
    (mentions : e'.Mentions use name) : e.Mentions use name ∨ v.Admits use name := by
  cases h with
  | heal | damage | setHealth | adjustMax | setMax | move =>
      rcases Entity.mentions_put mentions with new | before
      · cases new
      · exact .inl before
  | applyStatus status count expiresAt known =>
      rcases Entity.mentions_put mentions with new | before
      · cases new with
        | status kept =>
            rcases Statuses.mem_apply kept with rfl | kept
            · exact .inr (Vocabulary.admits_status known)
            · exact .inl (Entity.mentions_statusTable kept)
      · exact .inl before
  | removeStatus status requested held known =>
      rcases Entity.mentions_put mentions with new | before
      · cases new with
        | status kept =>
            rcases Statuses.mem_remove kept with rfl | kept
            · exact .inr (Vocabulary.admits_status known)
            · exact .inl (Entity.mentions_of_get? Slot.exact_statuses held (.status kept))
      · exact .inl before
  | changeStat stat amount expiresAt known =>
      rcases Entity.mentions_put mentions with new | before
      · rcases StatBlock.mentions_change new with ⟨rfl, rfl⟩ | kept
        · exact .inr (Vocabulary.admits_stat known)
        · exact .inl (Entity.mentions_statBlock kept)
      · exact .inl before
  | setStat stat value known =>
      rcases Entity.mentions_put mentions with new | before
      · rcases StatBlock.mentions_setBase new with ⟨rfl, rfl⟩ | kept
        · exact .inr (Vocabulary.admits_stat known)
        · exact .inl (Entity.mentions_statBlock kept)
      · exact .inl before
  | transform toType expiresAt known =>
      rcases Entity.mentions_transform mentions with ⟨rfl, rfl⟩ | before
      · exact .inr (Vocabulary.admits_entityType known)
      · exact .inl before
  | material source result held former known =>
      rcases Entity.mentions_put mentions with new | before
      · cases new
        exact .inr (Vocabulary.admits_material known)
      · exact .inl before

/-- What a write records names only what may be written, and what the target was. -/
structure Change.Named (v : Vocabulary) (target : EntityId) (e : Entity α) (change : Change α) :
    Prop where
  names : ∀ n ∈ change.names, v.Admits n.1 n.2
  spawned : change.spawned? = none
  former : ∀ id source, change.former? = some (id, source) → id = target ∧ source = e.typeName

theorem Write.change_named (h : Write v bounds target e e' f) (r : Report α) {change : Change α}
    (listed : change ∈ (f r).changes) : change ∈ r.changes ∨ change.Named v target e := by
  have pushed {one : Change α} (listed : change ∈ (r.change one).changes)
      (named : one.Named v target e) : change ∈ r.changes ∨ change.Named v target e := by
    rcases Array.mem_push.mp listed with before | rfl
    · exact .inl before
    · exact .inr named
  cases h with
  | heal | damage | setHealth | adjustMax | setMax | move =>
      exact pushed listed ⟨by simp [Change.names], rfl, by simp [Change.former?]⟩
  | applyStatus => exact .inl listed
  | @removeStatus table status requested held known =>
      have named := Vocabulary.admits_status known
      dsimp only at listed
      by_cases nothing : table.removable status requested = 0
      · rw [if_pos nothing] at listed
        exact .inl listed
      · rw [if_neg nothing] at listed
        exact pushed listed ⟨by simpa [Change.names] using named, rfl, by simp [Change.former?]⟩
  | changeStat _ _ _ known | setStat _ _ known =>
      have named : v.Admits .stat _ := Vocabulary.admits_stat known
      exact pushed listed ⟨by simpa [Change.names] using named, rfl, by simp [Change.former?]⟩
  | transform toType expiresAt known =>
      have named := Vocabulary.admits_entityType known
      refine pushed listed ⟨by simpa [Change.names] using named, rfl, ?_⟩
      rintro id source ⟨⟩
      exact ⟨rfl, rfl⟩
  | material source result held former known =>
      have both := And.intro (Vocabulary.admits_material former) (Vocabulary.admits_material known)
      exact pushed listed ⟨by simpa [Change.names] using both, rfl, by simp [Change.former?]⟩

theorem Write.status_named (h : Write v bounds target e e' f) (r : Report α) {a : AppliedStatus}
    (listed : a ∈ (f r).statuses) : a ∈ r.statuses ∨ v.Admits .status a.status := by
  cases h with
  | applyStatus status count expiresAt known =>
      rcases Array.mem_push.mp listed with before | rfl
      · exact .inl before
      · exact .inr (Vocabulary.admits_status known)
  | removeStatus =>
      left
      dsimp only at listed
      split at listed <;> exact listed
  | _ => exact .inl listed

theorem Write.item_eq (h : Write v bounds target e e' f) : e'.get? .item = e.get? .item := by
  cases h with
  | heal | damage | setHealth | adjustMax | setMax =>
      exact e.get?_put_of_ne .health .item _ (by simp)
  | applyStatus | removeStatus => exact e.get?_put_of_ne .statuses .item _ (by simp)
  | changeStat | setStat => exact e.get?_put_of_ne .stats .item _ (by simp)
  | move => exact e.get?_put_of_ne .position .item _ (by simp)
  | transform => exact Entity.get?_put_of_ne _ .transformed .item _ (by simp)
  | material => exact e.get?_put_of_ne .material .item _ (by simp)

end

/-! ## Moves -/

/-- Whether every name in the world and in the report of a state was there when the call began, or was
allowed to be written. -/
structure Execution.Vouched (v : Vocabulary) (w : World α) (s : Execution α) : Prop where
  /-- Numbers are not given out twice. -/
  spent : ∀ id ∈ s.report.spawned, id < s.world.nextId
  entities : ∀ id e, s.world.entity? id = some e → ∀ use name, e.Mentions use name →
    s.report.Vouches v w s.world id use name
  changes : ∀ change ∈ s.report.changes, ∀ n ∈ change.names, v.Admits n.1 n.2
  types : ∀ change ∈ s.report.changes, ∀ id typeName, change.spawned? = some (id, typeName) →
    v.Admits .entityType typeName ∨ s.report.IsItem s.world id typeName
  /-- What is turned into something else was of a type that is accounted for. -/
  former : ∀ change ∈ s.report.changes, ∀ id source, change.former? = some (id, source) →
    s.report.Vouches v w s.world id .entityType source
  statuses : ∀ a ∈ s.report.statuses, v.Admits .status a.status
  events : ∀ event ∈ s.report.events, event.Admitted v

/-- Whether whatever was spawned as an item is still one. -/
def Execution.KeepsItems (s s' : Execution α) : Prop :=
  ∀ id typeName, s.report.IsItem s.world id typeName → s'.report.IsItem s'.world id typeName

namespace Execution.KeepsItems

theorem vouches {v : Vocabulary} {w : World α} {s s' : Execution α} (keeps : s.KeepsItems s')
    {id : EntityId} {use : NameUse} {name : String}
    (h : s.report.Vouches v w s.world id use name) :
    s'.report.Vouches v w s'.world id use name := by
  rcases h with before | admitted | ⟨type, item⟩
  · exact .inl before
  · exact .inr (.inl admitted)
  · exact .inr (.inr ⟨type, keeps id name item⟩)

/-- What is spawned does not take the place of an item that was spawned before. -/
theorem addEntity {s : Execution α} (spent : ∀ id ∈ s.report.spawned, id < s.world.nextId)
    (typeName : String) (itemId : Option String) (place : Position α) :
    s.KeepsItems (s.addEntity typeName itemId place) := by
  rintro id type ⟨same, listed, carries⟩
  have old : s.world.nextId ≠ id := Nat.ne_of_gt (spent id listed)
  refine ⟨same, Array.mem_push.mpr (.inl listed), ?_⟩
  unfold World.Carries World.get? at carries ⊢
  rwa [entity?_addEntity_of_ne typeName itemId place old]

theorem write [Scalar α] {v : Vocabulary} {s : Execution α} {target : EntityId} {e e' : Entity α}
    {f : Report α → Report α} (found : s.world.entity? target = some e)
    (written : Write v s.world.bounds target e e' f) :
    s.KeepsItems { s with world := s.world.place target e', report := f s.report } := by
  obtain ⟨changes, statuses, report⟩ := written.report_eq s.report
  rintro id type ⟨same, listed, stack, carried⟩
  refine ⟨same, ?_, stack, ?_⟩
  · rw [report]
    exact listed
  · unfold World.get? at carried ⊢
    by_cases own : target = id
    · subst own
      rw [found] at carried
      change ((s.world.place target e').entity? target).bind _ = some stack
      rw [World.entity?_place]
      exact written.item_eq.trans carried
    · change ((s.world.place target e').entity? id).bind _ = some stack
      rwa [World.entity?_place_of_ne _ _ own]

end Execution.KeepsItems

theorem Cast.mentions_furnish {place : Position α} {itemId : Option String} {id : EntityId}
    {typeName : String} {use : NameUse} {name : String}
    (h : (furnish place itemId { id := id, typeName := typeName }).Mentions use name) :
    (use = .entityType ∧ name = typeName) ∨ (use = .item ∧ itemId = some name) := by
  have bare (m : Entity.Mentions (α := α) ⟨id, typeName, ∅⟩ use name) :
      (use = .entityType ∧ name = typeName) ∨ (use = .item ∧ itemId = some name) := by
    cases m with
    | typeName => exact .inl ⟨rfl, rfl⟩
    | component kept => simp at kept
  cases itemId with
  | none =>
      rcases Entity.mentions_put h with placed | before
      · cases placed
      · exact bare before
  | some item =>
      rcases Entity.mentions_put h with carried | before
      · cases carried
        exact .inr ⟨rfl, rfl⟩
      · rcases Entity.mentions_put before with placed | before
        · cases placed
        · exact bare before

theorem Report.admits_or_isItem_addEntity {v : Vocabulary} {typeName : String}
    {itemId : Option String} (known : v.Offers typeName itemId) (place : Position α)
    (s : Execution α) :
    v.Admits .entityType typeName ∨
      (s.addEntity typeName itemId place).report.IsItem (s.addEntity typeName itemId place).world
        s.world.nextId typeName := by
  cases itemId with
  | none => exact .inl (Vocabulary.admits_entityType known)
  | some itemId =>
      have carries : (s.addEntity typeName (some itemId) place).world.Carries s.world.nextId := by
        refine ⟨⟨itemId, 1⟩, ?_⟩
        unfold World.get?
        rw [Execution.entity?_addEntity]
        exact Entity.get?_put ..
      exact .inr ⟨known.1, Array.mem_push_self, carries⟩

namespace Execution.Vouched

variable {v : Vocabulary} {w : World α} {s s' : Execution α}

theorem of_eq (h : s.Vouched v w) (entity : ∀ id, s'.world.entity? id = s.world.entity? id)
    (nextId : s'.world.nextId = s.world.nextId) (spawned : s'.report.spawned = s.report.spawned)
    (changes : s'.report.changes = s.report.changes)
    (statuses : s'.report.statuses = s.report.statuses)
    (events : ∀ event ∈ s'.report.events, event.Admitted v) : s'.Vouched v w := by
  have keeps : s.KeepsItems s' := by
    rintro id typeName ⟨type, listed, carries⟩
    refine ⟨type, spawned ▸ listed, ?_⟩
    unfold World.Carries World.get? at carries ⊢
    rwa [entity]
  constructor
  · rw [spawned, nextId]
    exact h.spent
  · intro id e found use name mentions
    rw [entity] at found
    exact keeps.vouches (h.entities id e found use name mentions)
  · rw [changes]
    exact h.changes
  · rw [changes]
    intro change listed id typeName said
    exact (h.types change listed id typeName said).imp_right (keeps id typeName)
  · rw [changes]
    exact fun change listed id source said => keeps.vouches (h.former change listed id source said)
  · rw [statuses]
    exact h.statuses
  · exact events

theorem addEntity (h : s.Vouched v w) {typeName : String} {itemId : Option String}
    (known : v.Offers typeName itemId) (place : Position α) :
    (s.addEntity typeName itemId place).Vouched v w := by
  have found := entity?_addEntity typeName itemId place s
  have keeps := KeepsItems.addEntity h.spent typeName itemId place
  have type := Report.admits_or_isItem_addEntity known place s
  constructor
  · intro id listed
    change id < s.world.nextId + 1
    rcases Array.mem_push.mp listed with before | rfl
    · exact Nat.lt_succ_of_lt (h.spent id before)
    · exact Nat.lt_succ_self _
  · intro id e found' use name mentions
    by_cases new : s.world.nextId = id
    · subst new
      rw [found] at found'
      cases found'
      rcases Cast.mentions_furnish mentions with ⟨rfl, rfl⟩ | ⟨rfl, rfl⟩
      · exact .inr (type.imp_right fun item => ⟨rfl, item⟩)
      · exact .inr (.inl (Vocabulary.admits_item known.2))
    · rw [entity?_addEntity_of_ne typeName itemId place new] at found'
      exact keeps.vouches (h.entities id e found' use name mentions)
  · intro change listed
    rcases Array.mem_push.mp listed with before | rfl
    · exact h.changes change before
    · simp [Change.names]
  · intro change listed id typeName' said
    rcases Array.mem_push.mp listed with before | rfl
    · exact (h.types change before id typeName' said).imp_right (keeps id typeName')
    · cases said
      exact type
  · intro change listed id source said
    rcases Array.mem_push.mp listed with before | rfl
    · exact keeps.vouches (h.former change before id source said)
    · cases said
  · exact h.statuses
  · exact h.events

variable [Scalar α]

theorem write (h : s.Vouched v w) {target : EntityId} {e e' : Entity α}
    {f : Report α → Report α} (found : s.world.entity? target = some e)
    (written : Write v s.world.bounds target e e' f) :
    Vouched v w { s with world := s.world.place target e', report := f s.report } := by
  obtain ⟨changes, statuses, report⟩ := written.report_eq s.report
  have keeps := KeepsItems.write found written
  constructor
  · change ∀ id ∈ (f s.report).spawned, id < s.world.nextId
    rw [report]
    exact h.spent
  · intro id e'' found' use name mentions
    rcases World.found_of_place found' with ⟨rfl, rfl⟩ | ⟨-, found'⟩
    · rcases written.mentions mentions with before | admitted
      · exact keeps.vouches (h.entities target e found use name before)
      · exact .inr (.inl admitted)
    · exact keeps.vouches (h.entities id e'' found' use name mentions)
  · intro change listed
    rcases written.change_named s.report listed with before | new
    · exact h.changes change before
    · exact new.names
  · intro change listed id typeName said
    rcases written.change_named s.report listed with before | new
    · exact (h.types change before id typeName said).imp_right (keeps id typeName)
    · rw [new.spawned] at said
      cases said
  · intro change listed id source said
    rcases written.change_named s.report listed with before | new
    · exact keeps.vouches (h.former change before id source said)
    · obtain ⟨rfl, rfl⟩ := new.former id source said
      exact keeps.vouches (h.entities id e found .entityType e.typeName .typeName)
  · intro a listed
    rcases written.status_named s.report listed with before | admitted
    · exact h.statuses a before
    · exact admitted
  · change ∀ event ∈ (f s.report).events, event.Admitted v
    rw [report]
    exact h.events

theorem move {c : Cast α} {target : EntityId} (move : Move c target s s')
    (h : s.Vouched c.settings.vocabulary w) : s'.Vouched c.settings.vocabulary w := by
  cases move with
  | draw drawn =>
      obtain ⟨stream, rfl⟩ := drawn
      exact h.of_eq (fun _ => rfl) rfl rfl rfl rfl h.events
  | restore | wound | allot => exact h.of_eq (fun _ => rfl) rfl rfl rfl rfl h.events
  | spawn typeName itemId place inside known => exact h.addEntity known place
  | emit event world room named =>
      unfold World.emit? at room
      split at room
      · cases room
      · cases room
        refine h.of_eq (fun _ => rfl) rfl rfl rfl rfl ?_
        intro event' listed
        rcases Array.mem_push.mp listed with before | rfl
        · exact h.events event' before
        · exact named.admitted
  | write found written => exact h.write found written

end Execution.Vouched

/-! ## Calls -/

namespace Interpreter

variable [Scalar α] (i : Interpreter α) (call : Call α) (w : World α) (clock : Clock)

theorem moment_vouched (n : Nat) :
    (i.moment call w clock n).state.Vouched i.settings.vocabulary w := by
  refine i.moment_of_moves call w clock (P := Execution.Vouched i.settings.vocabulary w) ?_
    Execution.Vouched.move ?_ n
  · intro s s' alike vouched
    refine vouched.of_eq (fun id => by rw [alike.world]) (by rw [alike.world]) alike.spawned
      alike.changes alike.statuses ?_
    rw [alike.events]
    exact vouched.events
  · have blank := i.start_blank call w
    constructor
    · simp [blank.spawned]
    · intro id e found use name mentions
      rw [i.start_world] at found
      exact .inl ⟨e, found, mentions⟩
    · simp [blank.changes]
    · simp [blank.changes]
    · simp [blank.changes]
    · simp [blank.statuses]
    · simp [blank.events]

/-- Every name that an entity mentions after a call was mentioned before, is admitted by the vocabulary
for its use, or is the type of spawned items. All names in the report, those of events and of their
payloads included, are of this kind, and the log gets these events only. -/
theorem run_names (i : Interpreter α) (call : Call α) (w : World α) (clock : Clock) :
    let v := i.settings.vocabulary
    let w' := (i.run call w clock).2
    let r := (i.run call w clock).1.report
    (∀ id e, w'.entity? id = some e → ∀ use name, e.Mentions use name →
      r.Vouches v w w' id use name) ∧
    (∀ change ∈ r.changes, ∀ n ∈ change.names, v.Admits n.1 n.2) ∧
    (∀ change ∈ r.changes, ∀ id typeName, change.spawned? = some (id, typeName) →
      v.Admits .entityType typeName ∨ r.IsItem w' id typeName) ∧
    (∀ change ∈ r.changes, ∀ id source, change.former? = some (id, source) →
      r.Vouches v w w' id .entityType source) ∧
    (∀ a ∈ r.statuses, v.Admits .status a.status) ∧
    (∀ event ∈ r.events, event.Admitted v) ∧
    w'.events = w.events ++ r.events ∧
    Identifier.rejection? Cast.itemType = none := by
  obtain ⟨last, nothing, -⟩ := i.exists_last call w clock
  have vouched := i.moment_vouched call w clock last
  have logged := (i.moment_accounted call w clock last).state.events
  have reported : Execution.Vouched i.settings.vocabulary w
      { (i.moment call w clock last).state with
        report := { (i.moment call w clock last).state.report with
          success := (i.moment call w clock last).fault.isNone } } :=
    vouched.of_eq (fun _ => rfl) rfl rfl rfl rfl vouched.events
  dsimp only
  rw [world_run nothing, report_run nothing]
  exact ⟨reported.entities, reported.changes, reported.types, reported.former, reported.statuses,
    reported.events, logged, by decide⟩

end Interpreter

end Grimoire
