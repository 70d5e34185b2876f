import Grimoire.Proofs.Run.Calculus

/-! # The ceilings that end a call

What counts operations and targets and opens bodies, by cases: either the ceilings leave room, and
exactly one thing is counted, or a ceiling is reached, and nothing changes except that a refused
operation stays counted by the governor.
-/

namespace Grimoire

variable {α : Type}

/-! ## Room -/

def Allows (limit : Option Nat) (count : Nat) : Prop := ∀ most, limit = some most → count ≤ most

theorem Allows.or_exceeds (limit : Option Nat) (count : Nat) :
    Allows limit count ∨ ∃ most, limit = some most ∧ most < count := by
  cases limit with
  | none => exact .inl fun most h => by cases h
  | some most =>
      by_cases h : count ≤ most
      · exact .inl fun most' h' => by cases h'; exact h
      · exact .inr ⟨most, rfl, by omega⟩

namespace Governor

theorem require_ok {limit : Option Nat} {count : Nat} (h : Allows limit count) (refuse : Nat → Fault)
    (g : Governor α) : require limit count refuse g = .ok () g := by
  cases limit with
  | none => rfl
  | some most =>
      have within : count ≤ most := h most rfl
      simp only [require, if_pos within]
      rfl

theorem require_error {limit : Option Nat} {count most : Nat} (hl : limit = some most)
    (h : most < count) (refuse : Nat → Fault) (g : Governor α) :
    require limit count refuse g = .error (refuse most) g := by
  subst hl
  have beyond : ¬ count ≤ most := by omega
  simp only [require, if_neg beyond]
  rfl

end Governor

/-! ## Operations -/

def Limits.InTime (limits : Limits α) (clock : Clock) (begun : Nat) : Prop :=
  ∀ budget, limits.timeout = some budget → clock begun < budget

theorem Limits.inTime_or_late (limits : Limits α) (clock : Clock) (begun : Nat) :
    limits.InTime clock begun ∨
      ∃ budget, limits.timeout = some budget ∧ budget ≤ clock begun := by
  unfold InTime
  cases limits.timeout with
  | none => exact .inl fun budget h => by cases h
  | some budget =>
      by_cases h : clock begun < budget
      · exact .inl fun budget' h' => by cases h'; exact h
      · exact .inr ⟨budget, rfl, by omega⟩

namespace Governor

theorem checkpoint_ok {limits : Limits α} {clock : Clock} {g : Governor α}
    (h : limits.InTime clock g.begun) : checkpoint limits clock g = .ok () g := by
  unfold checkpoint
  cases hl : limits.timeout with
  | none => rfl
  | some budget =>
      have early : ¬ budget ≤ clock g.begun := Nat.not_le.mpr (h budget hl)
      simp only [Run.get_bind, if_neg early]
      rfl

theorem checkpoint_late {limits : Limits α} {clock : Clock} {g : Governor α} {budget : Nat}
    (hl : limits.timeout = some budget) (h : budget ≤ clock g.begun) :
    checkpoint limits clock g = .error (.timeout budget) g := by
  simp only [checkpoint, hl, Run.get_bind, if_pos h]
  rfl

end Governor

namespace Execution

/-- A state whose governor has counted one more operation. -/
def overrun (s : Execution α) : Execution α :=
  { s with governor := { s.governor with begun := s.governor.begun + 1 } }

def count (s : Execution α) : Execution α :=
  { s.overrun with report := { s.report with operations := s.report.operations + 1 } }

def meet (s : Execution α) (id : EntityId) : Execution α :=
  { s with
    governor := { s.governor with affected := s.governor.affected.insert id }
    report := { s.report with affected := s.report.affected.push id } }

/-- Whether the report of a state has counted the operations that its governor has counted. -/
def Counted (s : Execution α) : Prop := s.report.operations = s.governor.operations

theorem Counted.count {s : Execution α} (h : s.Counted) : s.count.Counted :=
  (congrArg (· + 1) h).trans (UInt32.ofNat_add s.governor.begun 1).symm

end Execution

namespace Cast

variable {c : Cast α} {s : Execution α}

theorem permit_ok (time : c.settings.limits.InTime c.clock s.governor.begun)
    (room : Allows c.settings.limits.operations s.overrun.governor.operations.toNat) :
    c.permit s = .ok () s.count := by
  have counted : Governor.permitOperation c.settings.limits c.clock s.governor =
      .ok () s.overrun.governor := by
    unfold Governor.permitOperation
    rw [Run.bind_ok (Governor.checkpoint_ok time)]
    exact Governor.require_ok room ..
  exact Run.bind_ok (Run.govern_ok counted)

/-- An operation that is refused has been counted, but not reported. -/
theorem permit_over {most : Nat} (time : c.settings.limits.InTime c.clock s.governor.begun)
    (limit : c.settings.limits.operations = some most)
    (full : most < s.overrun.governor.operations.toNat) :
    c.permit s = .error (.operationLimit most) s.overrun := by
  have refused : Governor.permitOperation c.settings.limits c.clock s.governor =
      .error (.operationLimit most) s.overrun.governor := by
    unfold Governor.permitOperation
    rw [Run.bind_ok (Governor.checkpoint_ok time)]
    exact Governor.require_error limit full ..
  exact Run.bind_error (Run.govern_error refused)

theorem permit_late {budget : Nat} (limit : c.settings.limits.timeout = some budget)
    (late : budget ≤ c.clock s.governor.begun) : c.permit s = .error (.timeout budget) s :=
  Run.bind_error (Run.govern_error (Run.bind_error (Governor.checkpoint_late limit late)))

/-- How the count of an operation ends. -/
inductive Permits (c : Cast α) (s : Execution α) :
    EStateM.Result Fault (Execution α) Unit → Prop where
  | counts (time : c.settings.limits.InTime c.clock s.governor.begun)
      (room : Allows c.settings.limits.operations s.overrun.governor.operations.toNat) :
      Permits c s (.ok () s.count)
  | overruns {most} (time : c.settings.limits.InTime c.clock s.governor.begun)
      (limit : c.settings.limits.operations = some most)
      (full : most < s.overrun.governor.operations.toNat) :
      Permits c s (.error (.operationLimit most) s.overrun)
  | late {budget} (limit : c.settings.limits.timeout = some budget)
      (late : budget ≤ c.clock s.governor.begun) : Permits c s (.error (.timeout budget) s)

theorem permit_cases (c : Cast α) (s : Execution α) : c.Permits s (c.permit s) := by
  rcases c.settings.limits.inTime_or_late c.clock s.governor.begun
      with time | ⟨budget, limit, late⟩
  · rcases Allows.or_exceeds c.settings.limits.operations s.overrun.governor.operations.toNat
        with room | ⟨most, limit, full⟩
    · rw [permit_ok time room]
      exact .counts time room
    · rw [permit_over time limit full]
      exact .overruns time limit full
  · rw [permit_late limit late]
    exact .late limit late

/-! ## Targets -/

theorem enroll_known {id : EntityId} (known : id ∈ s.governor.affected) :
    c.enroll id s = .ok () s := by
  have old : Governor.enroll c.settings.limits id s.governor = .ok false s.governor := by
    simp only [Governor.enroll, Run.get_bind, Std.ExtTreeSet.contains_iff_mem.mpr known, if_true]
    rfl
  exact Run.bind_ok (Run.govern_ok old)

theorem enroll_new {id : EntityId} (new : id ∉ s.governor.affected)
    (room : Allows c.settings.limits.entities (s.governor.affected.size + 1)) :
    c.enroll id s = .ok () (s.meet id) := by
  have met : Governor.enroll c.settings.limits id s.governor = .ok true (s.meet id).governor := by
    have absent : ¬ s.governor.affected.contains id = true := new
    simp only [Governor.enroll, Run.get_bind, if_neg absent]
    exact Run.bind_ok (Governor.require_ok room ..)
  exact Run.bind_ok (Run.govern_ok met)

theorem enroll_full {id : EntityId} {most : Nat} (new : id ∉ s.governor.affected)
    (limit : c.settings.limits.entities = some most)
    (full : most < s.governor.affected.size + 1) :
    c.enroll id s = .error (.entityLimit most) s := by
  have refused : Governor.enroll c.settings.limits id s.governor =
      .error (.entityLimit most) s.governor := by
    have absent : ¬ s.governor.affected.contains id = true := new
    simp only [Governor.enroll, Run.get_bind, if_neg absent]
    exact Run.bind_error (Governor.require_error limit full ..)
  exact Run.bind_error (Run.govern_error refused)

/-- How the count of a target ends; one that has been met is not counted again. -/
inductive Enrolls (c : Cast α) (s : Execution α) (id : EntityId) :
    EStateM.Result Fault (Execution α) Unit → Prop where
  | known (known : id ∈ s.governor.affected) : Enrolls c s id (.ok () s)
  | meets (new : id ∉ s.governor.affected)
      (room : Allows c.settings.limits.entities (s.governor.affected.size + 1)) :
      Enrolls c s id (.ok () (s.meet id))
  | crowded {most} (new : id ∉ s.governor.affected)
      (limit : c.settings.limits.entities = some most)
      (full : most < s.governor.affected.size + 1) :
      Enrolls c s id (.error (.entityLimit most) s)

theorem enroll_cases (c : Cast α) (s : Execution α) (id : EntityId) :
    c.Enrolls s id (c.enroll id s) := by
  by_cases known : id ∈ s.governor.affected
  · rw [enroll_known known]
    exact .known known
  · rcases Allows.or_exceeds c.settings.limits.entities (s.governor.affected.size + 1)
        with room | ⟨most, limit, full⟩
    · rw [enroll_new known room]
      exact .meets known room
    · rw [enroll_full known limit full]
      exact .crowded known limit full

end Cast

/-! ## Bodies -/

namespace Body

/-- The effect that a body runs, if it is the body of a chain or a trigger. -/
def effect? : Body → Option String
  | nested => none
  | chain effectId | trigger effectId => some effectId

def isChain : Body → Bool
  | chain _ => true
  | _ => false

def opened (b : Body) (s : Execution α) : Execution α :=
  { s with
    governor := { s.governor with
      depth := s.governor.depth + 1
      chainDepth := s.governor.chainDepth + b.isChain.toNat
      path := b.effect?.toList ++ s.governor.path }
    report := { s.report with
      chainCount := bif b.isChain then s.report.chainCount + 1 else s.report.chainCount } }

/-- Whether the governor lets a body be opened. -/
structure Admitted (limits : Limits α) (g : Governor α) (b : Body) : Prop where
  fresh : ∀ id, b.effect? = some id → id ∉ g.path
  chains : b.isChain = true → Allows limits.chainDepth (g.chainDepth + 1)
  depth : Allows limits.depth (g.depth + 1)

/-- Why the governor refuses to open a body: first a cycle, then the ceiling of chains, then the
ceiling of bodies. -/
inductive Refused (limits : Limits α) (g : Governor α) : Body → Fault → Prop where
  | cycle {b id} (runs : b.effect? = some id) (running : id ∈ g.path) :
      Refused limits g b (.chainLimit id .cycle)
  | chains {id most} (fresh : id ∉ g.path) (limit : limits.chainDepth = some most)
      (full : most < g.chainDepth + 1) :
      Refused limits g (.chain id) (.chainLimit id (.depth most))
  | depth {b most} (fresh : ∀ id, b.effect? = some id → id ∉ g.path)
      (chains : b.isChain = true → Allows limits.chainDepth (g.chainDepth + 1))
      (limit : limits.depth = some most) (full : most < g.depth + 1) :
      Refused limits g b (.depthLimit most)

theorem admitted_or_refused (limits : Limits α) (g : Governor α) (b : Body) :
    b.Admitted limits g ∨ ∃ fault, b.Refused limits g fault := by
  by_cases fresh : ∀ id, b.effect? = some id → id ∉ g.path
  · by_cases chains : b.isChain = true → Allows limits.chainDepth (g.chainDepth + 1)
    · rcases Allows.or_exceeds limits.depth (g.depth + 1) with room | ⟨most, limit, full⟩
      · exact .inl ⟨fresh, chains, room⟩
      · exact .inr ⟨_, .depth fresh chains limit full⟩
    · obtain ⟨chain, crowded⟩ := Classical.not_imp.mp chains
      rcases Allows.or_exceeds limits.chainDepth (g.chainDepth + 1) with room | ⟨most, limit, full⟩
      · exact absurd room crowded
      · cases b with
        | chain id => exact .inr ⟨_, .chains (fresh id rfl) limit full⟩
        | nested | trigger => cases chain
  · obtain ⟨id, cyclic⟩ := Classical.not_forall.mp fresh
    obtain ⟨runs, running⟩ := Classical.not_imp.mp cyclic
    exact .inr ⟨_, .cycle runs (Classical.not_not.mp running)⟩

end Body

namespace Governor

variable {limits : Limits α} {g : Governor α} {id : String}

theorem checkCycle_ok (fresh : id ∉ g.path) : checkCycle id g = .ok () g := by
  have absent : ¬ g.path.contains id = true := by simpa using fresh
  simp only [checkCycle, Run.get_bind, if_neg absent]
  rfl

theorem checkCycle_error (running : id ∈ g.path) :
    checkCycle id g = .error (.chainLimit id .cycle) g := by
  have present : g.path.contains id = true := by simpa using running
  simp only [checkCycle, Run.get_bind, if_pos present]
  rfl

theorem enterNested_ok (room : Allows limits.depth (g.depth + 1)) :
    enterNested limits g = .ok () { g with depth := g.depth + 1 } := by
  unfold enterNested
  rw [Run.get_bind]
  exact Run.bind_ok (require_ok room .depthLimit g)

theorem enterNested_error {most : Nat} (limit : limits.depth = some most)
    (full : most < g.depth + 1) : enterNested limits g = .error (.depthLimit most) g := by
  unfold enterNested
  rw [Run.get_bind]
  exact Run.bind_error (require_error limit full .depthLimit g)

end Governor

namespace Cast

variable {c : Cast α} {s : Execution α} {b : Body}

theorem enter_ok (h : b.Admitted c.settings.limits s.governor) :
    c.enter b s = .ok () (b.opened s) := by
  cases b with
  | nested => exact Run.govern_ok (Governor.enterNested_ok h.depth)
  | chain id =>
      have fresh : id ∉ s.governor.path := h.fresh id rfl
      have entered : Governor.enterChain c.settings.limits id s.governor =
          .ok () ((Body.chain id).opened s).governor := by
        unfold Governor.enterChain
        rw [Run.bind_ok (Governor.checkCycle_ok fresh), Run.get_bind,
          Run.bind_ok (Governor.require_ok (h.chains rfl) _ _),
          Run.bind_ok (Governor.enterNested_ok h.depth)]
        simp only [Body.opened, Body.effect?, Option.toList_some, List.singleton_append,
          ← List.insert_of_not_mem fresh]
        rfl
      exact Run.bind_ok (Run.govern_ok entered)
  | trigger id =>
      have fresh : id ∉ s.governor.path := h.fresh id rfl
      have entered : Governor.enterTrigger c.settings.limits id s.governor =
          .ok () ((Body.trigger id).opened s).governor := by
        unfold Governor.enterTrigger
        rw [Run.bind_ok (Governor.checkCycle_ok fresh),
          Run.bind_ok (Governor.enterNested_ok h.depth)]
        simp only [Body.opened, Body.effect?, Option.toList_some, List.singleton_append,
          ← List.insert_of_not_mem fresh]
        rfl
      exact Run.govern_ok entered

theorem enter_refused {fault : Fault} (h : b.Refused c.settings.limits s.governor fault) :
    c.enter b s = .error fault s := by
  cases h with
  | @cycle b id runs running =>
      have blocked := Governor.checkCycle_error running
      cases b with
      | nested => cases runs
      | chain => cases runs; exact Run.bind_error (Run.govern_error (Run.bind_error blocked))
      | trigger => cases runs; exact Run.govern_error (Run.bind_error blocked)
  | @chains id most fresh limit full =>
      refine Run.bind_error (Run.govern_error ?_)
      unfold Governor.enterChain
      rw [Run.bind_ok (Governor.checkCycle_ok fresh), Run.get_bind]
      exact Run.bind_error (Governor.require_error limit full ..)
  | @depth b most fresh chains limit full =>
      have deep := Governor.enterNested_error limit full
      cases b with
      | nested => exact Run.govern_error deep
      | chain id =>
          refine Run.bind_error (Run.govern_error ?_)
          unfold Governor.enterChain
          rw [Run.bind_ok (Governor.checkCycle_ok (fresh id rfl)), Run.get_bind,
            Run.bind_ok (Governor.require_ok (chains rfl) _ _)]
          exact Run.bind_error deep
      | trigger id =>
          refine Run.govern_error ?_
          unfold Governor.enterTrigger
          rw [Run.bind_ok (Governor.checkCycle_ok (fresh id rfl))]
          exact Run.bind_error deep

end Cast

/-! ## The place of a call -/

/-- Two governors with the same bodies open. -/
structure Governor.SamePlace (g g' : Governor α) : Prop where
  depth : g'.depth = g.depth
  chainDepth : g'.chainDepth = g.chainDepth
  path : g'.path = g.path

namespace Governor.SamePlace

theorem refl (g : Governor α) : g.SamePlace g := ⟨rfl, rfl, rfl⟩

theorem trans {g₁ g₂ g₃ : Governor α} (h : g₁.SamePlace g₂) (h' : g₂.SamePlace g₃) :
    g₁.SamePlace g₃ :=
  ⟨h'.depth.trans h.depth, h'.chainDepth.trans h.chainDepth, h'.path.trans h.path⟩

end Governor.SamePlace

namespace Body

variable (b : Body) (g : Governor α)

@[simp] theorem leave_begun : (b.leave g).begun = g.begun := by
  cases b <;> rfl

@[simp] theorem leave_affected : (b.leave g).affected = g.affected := by
  cases b <;> rfl

@[simp] theorem leave_depth : (b.leave g).depth = g.depth - 1 := by
  cases b <;> rfl

@[simp] theorem leave_chainDepth : (b.leave g).chainDepth = g.chainDepth - b.isChain.toNat := by
  cases b <;> rfl

variable {b g}

/-- Only the effect that was put on the path last is taken off it. -/
theorem leave_path {path : List String} (h : g.path = b.effect?.toList ++ path) :
    (b.leave g).path = path := by
  cases b with
  | nested => exact h
  | chain id | trigger id =>
      change g.path.erase id = path
      rw [h]
      exact List.erase_cons_head id path

/-- Closing a body leads back to where it was opened, if it is left where it was entered. -/
theorem leave_opened {s : Execution α} (h : (b.opened s).governor.SamePlace g) :
    s.governor.SamePlace (b.leave g) where
  depth := by
    have depth : g.depth = s.governor.depth + 1 := h.depth
    rw [leave_depth]
    omega
  chainDepth := by
    have chainDepth : g.chainDepth = s.governor.chainDepth + b.isChain.toNat := h.chainDepth
    rw [leave_chainDepth]
    omega
  path := leave_path h.path

end Body

end Grimoire
