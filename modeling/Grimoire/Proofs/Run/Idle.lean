import Grimoire.Proofs.Run.Cost

/-! # Runs that only count

A repetition of no rounds only counts itself, and so does a chain into an effect with a condition that
is `false`. However often they are repeated, the world, the stream and the open bodies stay the same, so
the state after billions of such operations is known without running them.
-/

namespace Grimoire

variable {α : Type}

/-- A state after some operations and some chains that did nothing. -/
def Execution.idled (s : Execution α) (begun chains : Nat) : Execution α :=
  { s with
    governor := { s.governor with begun := s.governor.begun + begun }
    report := { s.report with
      operations := s.report.operations + .ofNat begun
      chainCount := s.report.chainCount + .ofNat chains } }

theorem Execution.idled_zero (s : Execution α) : s.idled 0 0 = s := by
  simp [idled]

theorem Execution.idled_idled (s : Execution α) (a b n k : Nat) :
    (s.idled a b).idled n k = s.idled (a + n) (b + k) := by
  simp [idled, UInt32.ofNat_add, UInt32.add_assoc, Nat.add_assoc]

/-- Ceilings that no operation and no body reaches; the counter of operations never passes the largest
number that it can hold. -/
structure Limits.Open (limits : Limits α) : Prop where
  operations : ∀ most, limits.operations = some most → maxCount ≤ most
  depth : limits.depth = none
  chainDepth : limits.chainDepth = none
  timeout : limits.timeout = none

/-- Whether a run on a path begins so many operations, opens so many chains and does nothing else. -/
structure Run.Idles (path : List String) (begun chains : Nat) (m : Run α Unit) : Prop where
  run : ∀ {s : Execution α}, s.governor.path = path → m s = .ok () (s.idled begun chains)

namespace Run.Idles

variable {path : List String} {a b n k : Nat} {m m' : Run α Unit}

theorem pure : (Pure.pure () : Run α Unit).Idles path 0 0 :=
  ⟨fun {s} _ => by rw [s.idled_zero]; rfl⟩

theorem bind (h : m.Idles path a b) (h' : m'.Idles path n k) :
    (m >>= fun _ => m').Idles path (a + n) (b + k) := by
  constructor
  intro s place
  have second : m' (s.idled a b) = _ := h'.run place
  rw [Run.bind_ok (h.run place), second, s.idled_idled]

theorem times (h : m.Idles path a b) : ∀ n, (Run.times n m).Idles path (n * a) (n * b)
  | 0 => by
      rw [Nat.zero_mul, Nat.zero_mul]
      exact pure
  | n + 1 => by
      rw [Nat.succ_mul, Nat.succ_mul, Nat.add_comm (n * a), Nat.add_comm (n * b)]
      exact h.bind (times h n)

end Run.Idles

namespace Cast

open Run

variable {c : Cast α} {re : Reentry α} {target : EntityId} {path : List String} {a b n k : Nat}
  {inner : Run α Unit}

section

variable (free : c.settings.limits.Open)
include free

theorem idles_permit : c.permit.Idles path 1 0 := by
  constructor
  intro s _
  have time : c.settings.limits.InTime c.clock s.governor.begun := by
    intro budget limit
    cases free.timeout.symm.trans limit
  have room : Allows c.settings.limits.operations s.overrun.governor.operations.toNat := fun most limit =>
    Nat.le_trans (Nat.le_of_lt_succ (UInt32.toNat_lt _)) (free.operations most limit)
  rw [permit_ok time room]
  simp [Execution.count, Execution.overrun, Execution.idled]

theorem admitted_of_open {body : Body} {g : Governor α}
    (fresh : ∀ id, body.effect? = some id → id ∉ g.path) : body.Admitted c.settings.limits g where
  fresh := fresh
  chains _ _ limit := nomatch free.chainDepth.symm.trans limit
  depth _ limit := nomatch free.depth.symm.trans limit

theorem idles_nested (h : inner.Idles path n k) : (c.within .nested inner).Idles path n k := by
  constructor
  intro s place
  have room : Body.nested.Admitted c.settings.limits s.governor := admitted_of_open free nofun
  have inside := h.run (s := Body.nested.opened s) place
  exact (bind_ok (enter_ok room)).trans (andThen_ok inside)

theorem idles_chain {id : String} (fresh : id ∉ path) (h : inner.Idles (id :: path) n k) :
    (c.within (.chain id) inner).Idles path n (k + 1) := by
  constructor
  rintro s rfl
  have room : (Body.chain id).Admitted c.settings.limits s.governor :=
    admitted_of_open free fun _ runs => Option.some.inj runs ▸ fresh
  have inside := h.run (s := (Body.chain id).opened s) rfl
  have left : ((Body.chain id).opened s).governor.path.erase id = s.governor.path :=
    List.erase_cons_head ..
  refine ((bind_ok (enter_ok room)).trans (andThen_ok inside)).trans ?_
  simp only [Execution.idled, Body.leave, Governor.exitChain, Governor.exitNested, left]
  simp [Body.opened, Body.isChain, UInt32.ofNat_add, UInt32.add_assoc, UInt32.add_comm]

end

/-- Enrolling the first target does not matter to operations that only count. -/
theorem runOnTargets_idle [Scalar α] {ops : List (Operation α)} {s : Execution α} {id : EntityId}
    (free : c.settings.limits.entities = none) (new : id ∉ s.governor.affected)
    (h : (c.runOperations re id ops).Idles s.governor.path n k) :
    c.runOnTargets re ops [id] s = .ok () ((s.meet id).idled n k) := by
  have met := enroll_new (c := c) new fun _ limit => nomatch free.symm.trans limit
  have ran : (c.enroll id >>= fun _ => c.runOperations re id ops) s = _ :=
    (bind_ok met).trans (h.run rfl)
  exact bind_ok ran

end Cast

/-! ## Operations -/

variable [Scalar α] [Scalar.Counting α]

namespace Cast

open Run

variable {c : Cast α} {re : Reentry α} {target : EntityId} {path : List String} {a b n k : Nat}

omit [Scalar.Counting α] in
theorem idles_single {op : Operation α} (h : (c.runOperation re target op).Idles path n k) :
    (c.runOperations re target [op]).Idles path n k := by
  rw [runOperations, runOperations]
  exact h.bind .pure

variable (free : c.settings.limits.Open)
include free

/-- A repetition of operations that only count counts itself and all of its rounds. -/
theorem idles_iterate {times : Expr α} {body : List (Operation α)} (counts : times.Counts n)
    (h : 0 < n → (c.runOperations re target body).Idles path a b) :
    (c.runOperation re target (.iterate times body)).Idles path (1 + n * a) (n * b) := by
  have rounds : (do
      let count ← c.evalCount target "repeat.times" times
      if count = 0 then pure ()
      else c.within .nested (Run.times count (c.runOperations re target body))).Idles
        path (n * a) (n * b) := by
    rw [evalCount_counts c target "repeat.times" counts, pure_bind]
    split
    · next none =>
        rw [none, Nat.zero_mul, Nat.zero_mul]
        exact .pure
    · next some => exact idles_nested free ((h (Nat.pos_of_ne_zero some)).times n)
  have counted := (idles_permit free).bind rounds
  rw [Nat.zero_add] at counted
  unfold runOperation
  exact counted

omit [Scalar.Counting α] in
/-- A chain into an effect whose conditions fail is counted and does nothing else. -/
theorem idles_chained {id : String} {e : Effect α} {selector : Selector α} (fresh : id ∉ path)
    (found : c.book.require id = .ok e) (checked : e.check c.settings.vocabulary = .ok ())
    (never : e.conditions = [.bool false]) :
    (c.runOperation (c.reentry (n + 1)) target (.chain id selector)).Idles path 1 1 := by
  have body : (c.chainBody (c.reentry n) target e selector).Idles (id :: path) 0 0 := by
    unfold chainBody
    rw [checked, never]
    exact .pure
  have chained : (c.chain (c.reentry n) target id selector).Idles path 0 1 := by
    unfold chain
    rw [found]
    exact idles_chain free fresh body
  unfold runOperation
  exact (idles_permit free).bind chained

end Cast

/-! ## A vigil -/

def hour : Operation Float := .iterate (.number 0) [.act (.heal (.number 1))]

def vigil (hours : Nat) : Operation Float := .iterate (.number (Scalar.ofNat hours)) [hour]

section

variable {hours : Nat} (same : ((Scalar.ofNat hours : Float) == Scalar.ofNat hours) = true)
  (most : hours ≤ maxCount)

theorem counts_zero : (Expr.number (0 : Float)).Counts 0 :=
  ⟨⟨0, rfl, by decide +kernel⟩, Nat.zero_le _⟩

include same most

theorem vigil_costs : (vigil hours).Costs (1 + hours) := by
  have one : hour.Costs (1 + 0 * (1 + 0)) := .iterate counts_zero (.cons (.act _) .nil)
  have all : (vigil hours).Costs (1 + hours * (1 + 0 * (1 + 0) + 0)) :=
    .iterate ⟨⟨_, rfl, same⟩, most⟩ (.cons one .nil)
  simpa using all

theorem Cast.idles_vigil {c : Cast Float} {re : Reentry Float} {target : EntityId} {path : List String}
    (free : c.settings.limits.Open) :
    (c.runOperation re target (vigil hours)).Idles path (1 + hours) 0 := by
  have one : (c.runOperations re target [hour]).Idles path 1 0 :=
    idles_single (idles_iterate (a := 0) (b := 0) free counts_zero nofun)
  have all := idles_iterate free ⟨⟨_, rfl, same⟩, most⟩ fun _ => one
  rwa [Nat.mul_one, Nat.mul_zero] at all

end

end Grimoire
