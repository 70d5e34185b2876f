import Grimoire.Proofs.Run.Stacks
import Mathlib.Order.Bounds.Basic

/-! # Statuses as a ledger

Stacks that are applied add up, and of the ends that are asked for the latest one counts; an application
for good outweighs all of them.  Both are sums in which the order does not matter, the first application
of a status included.  Every status has an account of its own: what is done to one leaves the others alone,
so an account is read off the turns that are about it.
-/

namespace Grimoire.Statuses

/-- Stacks of a status that are applied, and when they are to lapse. -/
structure Application where
  status : String
  count : Nat
  expiresAt : Option Nat
  deriving DecidableEq, Repr

/-- What happens to a table: stacks are applied or removed, or a tick is reached. -/
inductive Turn where
  | apply (a : Application)
  | remove (status : String) (count : Option Nat)
  | expire (tick : Nat)
  deriving DecidableEq, Repr

def turn (s : Statuses) : Turn → Statuses
  | .apply a => s.apply a.status a.count a.expiresAt
  | .remove status count => s.remove status count
  | .expire tick => s.expire tick

def turns (s : Statuses) (ts : List Turn) : Statuses := ts.foldl turn s

def applyAll (s : Statuses) (as : List Application) : Statuses := s.turns (as.map .apply)

/-- Whether a turn is about a status.  A tick is about all of them. -/
def Turn.concerns (name : String) : Turn → Bool
  | .apply a => a.status == name
  | .remove status _ => status == name
  | .expire _ => true

/-- Whether every status in a table has stacks, and no more than can be counted. -/
structure Sound (s : Statuses) : Prop where
  counted : ∀ {name entry}, s.get? name = some entry → 0 < entry.count ∧ entry.count ≤ maxCount

/-- The stacks of an entry; where there is none, there are none. -/
def stacksOf (entry : Option StatusEntry) : Nat := (entry.map (·.count)).getD 0

/-- The ends that a status was given: the one that it had, and those of the applications. -/
def expiries (old : Option StatusEntry) (as : List Application) : List (Option Nat) :=
  (old.map (·.expiresAt)).toList ++ as.map (·.expiresAt)

/-- Whether an end is the last one of some; without an end there is none that is later. -/
structure IsLast (last : Option Nat) (ends : List (Option Nat)) : Prop where
  permanent : last = none ↔ none ∈ ends
  latest : ∀ {tick}, last = some tick → IsGreatest {t | some t ∈ ends} tick

/-- What applications of a status come to, on top of what there was. -/
structure Tallies (old : Option StatusEntry) (as : List Application) (new : StatusEntry) : Prop where
  count : new.count = min (stacksOf old + (as.map (·.count)).sum) maxCount
  last : IsLast new.expiresAt (expiries old as)

/-- What a removal takes from a status, and what it leaves. -/
structure Withdraws (requested : Option Nat) (removed : Nat) (old new : Option StatusEntry) : Prop where
  taken : removed = requested.elim (stacksOf old) fun n => min n (stacksOf old)
  gone : new = none ↔ removed = stacksOf old
  left : ∀ {entry}, new = some entry →
    entry.count + removed = stacksOf old ∧ old.map (·.expiresAt) = some entry.expiresAt

/-- How a table keeps account. -/
structure Accounts (s : Statuses) : Prop where
  anyOrder : ∀ {as bs : List Application}, as.Perm bs → s.applyAll as = s.applyAll bs
  absent : ∀ as name, (s.applyAll as).get? name = none ↔
    s.get? name = none ∧ ∀ a ∈ as, a.status ≠ name
  tallies : ∀ {as name entry}, (s.applyAll as).get? name = some entry →
    Tallies (s.get? name) (as.filter (·.status == name)) entry
  withdraws : ∀ name requested, Withdraws requested (s.removable name requested) (s.get? name)
    ((s.remove name requested).get? name)
  apart : ∀ ts name, (s.turns ts).get? name = (s.turns (ts.filter (·.concerns name))).get? name

variable {s : Statuses}

theorem ext_get? {s' : Statuses} (same : ∀ name, s.get? name = s'.get? name) : s = s' :=
  congrArg mk (Std.ExtTreeMap.ext_getElem? same)

theorem stackCount_eq (s : Statuses) (name : String) : s.stackCount name = stacksOf (s.get? name) := by
  unfold stackCount
  cases s.get? name <;> rfl

theorem get?_remove (s : Statuses) (name : String) (requested : Option Nat) :
    (s.remove name requested).get? name = (s.get? name).bind fun e =>
      if e.count - s.removable name requested = 0 then none
      else some { e with count := e.count - s.removable name requested } := by
  unfold remove
  cases held : s.get? name with
  | none => exact held
  | some e =>
      dsimp only [Option.bind_some]
      split <;> simp [get?]

/-! ## One account -/

theorem get?_turn_of_not_concerns {name : String} {t : Turn} (other : t.concerns name = false) :
    (s.turn t).get? name = s.get? name := by
  cases t with
  | apply a => exact s.get?_apply_of_ne _ _ (by simpa [Turn.concerns] using other)
  | remove status count => exact s.get?_remove_of_ne _ (by simpa [Turn.concerns] using other)
  | expire tick => cases other

theorem get?_turn_congr {s' : Statuses} {name : String} (same : s.get? name = s'.get? name) (t : Turn) :
    (s.turn t).get? name = (s'.turn t).get? name := by
  cases about : t.concerns name with
  | false => rw [get?_turn_of_not_concerns about, get?_turn_of_not_concerns about, same]
  | true =>
      cases t with
      | apply a =>
          cases (beq_iff_eq.mp about : a.status = name)
          simp only [turn, get?_apply, same]
      | remove status count =>
          cases (beq_iff_eq.mp about : status = name)
          have taken : s.removable name count = s'.removable name count := by
            unfold removable
            rw [stackCount_eq, stackCount_eq, same]
          simp only [turn, get?_remove, same, taken]
      | expire tick => simp only [turn, get?_expire, same]

theorem get?_turns_congr {s' : Statuses} {name : String} (same : s.get? name = s'.get? name)
    (ts : List Turn) :
    (s.turns ts).get? name = (s'.turns (ts.filter (·.concerns name))).get? name := by
  induction ts generalizing s s' with
  | nil => exact same
  | cons t ts ih =>
      cases about : t.concerns name with
      | true =>
          rw [List.filter_cons_of_pos about]
          exact ih (get?_turn_congr same t)
      | false =>
          rw [List.filter_cons_of_neg (Bool.not_eq_true _ ▸ about)]
          exact ih ((get?_turn_of_not_concerns about).trans same)

/-! ## Stacks -/

theorem Sound.empty : ({} : Statuses).Sound := ⟨fun held => by simp [get?] at held⟩

/-- Applying, removing and ticks keep a table sound, as long as stacks are applied where any are. -/
theorem Sound.turn (sound : s.Sound) {t : Turn} (stacked : ∀ a, t = .apply a → 0 < a.count) :
    (s.turn t).Sound := by
  refine ⟨fun {name entry} held => ?_⟩
  cases about : t.concerns name with
  | false =>
      rw [get?_turn_of_not_concerns about] at held
      exact sound.counted held
  | true =>
      cases t with
      | apply a =>
          cases (beq_iff_eq.mp about : a.status = name)
          rw [Statuses.turn, get?_apply] at held
          cases held
          have positive := stacked a rfl
          have room : 0 < maxCount := by decide
          unfold merge
          cases s.get? a.status with
          | none => exact ⟨lt_min positive room, min_le_right ..⟩
          | some old => exact ⟨lt_min (Nat.add_pos_right _ positive) room, min_le_right ..⟩
      | remove status requested =>
          cases (beq_iff_eq.mp about : status = name)
          rw [Statuses.turn, get?_remove, Option.bind_eq_some_iff] at held
          obtain ⟨old, was, held⟩ := held
          split at held
          · cases held
          · next some =>
              cases held
              exact ⟨Nat.pos_of_ne_zero some, (Nat.sub_le ..).trans (sound.counted was).2⟩
      | expire tick =>
          rw [Statuses.turn, get?_expire, Option.filter_eq_some_iff] at held
          exact sound.counted held.1

theorem Sound.turns (sound : s.Sound) {ts : List Turn} (stacked : ∀ a, .apply a ∈ ts → 0 < a.count) :
    (s.turns ts).Sound := by
  induction ts generalizing s with
  | nil => exact sound
  | cons t ts ih =>
      refine ih (sound.turn fun a here => ?_) fun a listed => stacked a (List.mem_cons_of_mem _ listed)
      exact stacked a (here ▸ List.mem_cons_self)

/-! ## Applications -/

theorem get?_turn_apply (s : Statuses) (a : Application) (name : String) :
    (s.turn (.apply a)).get? name =
      if a.status = name then some (merge (s.get? name) a.count a.expiresAt) else s.get? name := by
  by_cases here : a.status = name
  · rw [if_pos here, ← here]
    exact s.get?_apply ..
  · rw [if_neg here]
    exact s.get?_apply_of_ne _ _ here

theorem laterExpiry_comm (a b : Option Nat) : laterExpiry a b = laterExpiry b a := by
  cases a <;> cases b <;> simp [laterExpiry, Nat.max_comm]

theorem laterExpiry_right_comm (a b c : Option Nat) :
    laterExpiry (laterExpiry a b) c = laterExpiry (laterExpiry a c) b := by
  cases a <;> cases b <;> cases c <;> simp only [laterExpiry, Option.some.injEq]
  omega

theorem merge_right_comm (old : Option StatusEntry) (n m : Nat) (a b : Option Nat) :
    merge (some (merge old n a)) m b = merge (some (merge old m b)) n a := by
  cases old with
  | none =>
      simp only [merge, StatusEntry.mk.injEq]
      exact ⟨by omega, laterExpiry_comm a b⟩
  | some e =>
      simp only [merge, StatusEntry.mk.injEq]
      exact ⟨by omega, laterExpiry_right_comm ..⟩

theorem turn_apply_right_comm (s : Statuses) (a b : Application) :
    (s.turn (.apply a)).turn (.apply b) = (s.turn (.apply b)).turn (.apply a) := by
  refine ext_get? fun name => ?_
  simp only [get?_turn_apply]
  split
  · split
    · exact congrArg some (merge_right_comm ..)
    · rfl
  · rfl

theorem applyAll_perm {as bs : List Application} (perm : as.Perm bs) : s.applyAll as = s.applyAll bs := by
  unfold applyAll turns
  rw [List.foldl_map, List.foldl_map]
  exact perm.foldl_eq' (fun a _ b _ s => s.turn_apply_right_comm a b) s

theorem get?_applyAll_eq_none (s : Statuses) (as : List Application) (name : String) :
    (s.applyAll as).get? name = none ↔ s.get? name = none ∧ ∀ a ∈ as, a.status ≠ name := by
  induction as generalizing s with
  | nil => simp [applyAll, turns]
  | cons a as ih =>
      refine (ih (s.turn (.apply a))).trans ?_
      rw [get?_turn_apply, List.forall_mem_cons]
      by_cases here : a.status = name <;> simp [here]

theorem get?_applyAll (s : Statuses) (as : List Application) (name : String) :
    (s.applyAll as).get? name = (s.applyAll (as.filter (·.status == name))).get? name := by
  refine (get?_turns_congr rfl (as.map .apply)).trans ?_
  rw [List.filter_map]
  rfl

/-! ### What they come to -/

theorem IsLast.never {ends : List (Option Nat)} (listed : none ∈ ends) : IsLast none ends :=
  ⟨iff_of_true rfl listed, nofun⟩

theorem IsLast.of_laterExpiry {last a b : Option Nat} {ends : List (Option Nat)}
    (h : IsLast last (laterExpiry a b :: ends)) : IsLast last (a :: b :: ends) := by
  cases a with
  | none =>
      cases h.permanent.mpr List.mem_cons_self
      exact .never List.mem_cons_self
  | some x =>
      cases b with
      | none =>
          cases h.permanent.mpr List.mem_cons_self
          exact .never (List.mem_cons_of_mem _ List.mem_cons_self)
      | some y =>
          refine ⟨h.permanent.trans (by simp [laterExpiry]), fun {tick} here => ?_⟩
          obtain ⟨listed, above⟩ := h.latest here
          have both : max x y ≤ tick := above List.mem_cons_self
          refine ⟨?_, fun t other => ?_⟩
          · rcases List.mem_cons.mp listed with newer | older
            · cases newer
              rcases le_total x y with le | ge
              · rw [max_eq_right le]
                exact List.mem_cons_of_mem _ List.mem_cons_self
              · rw [max_eq_left ge]
                exact List.mem_cons_self
            · exact List.mem_cons_of_mem _ (List.mem_cons_of_mem _ older)
          · rcases List.mem_cons.mp other with first | other
            · cases first
              exact (le_max_left ..).trans both
            · rcases List.mem_cons.mp other with second | other
              · cases second
                exact (le_max_right ..).trans both
              · exact above (List.mem_cons_of_mem _ other)

namespace Tallies

variable {old : Option StatusEntry} {a : Application} {as : List Application} {entry : StatusEntry}

theorem nil (fits : entry.count ≤ maxCount) : Tallies (some entry) [] entry where
  count := (min_eq_left fits).symm
  last := ⟨by simp [expiries, eq_comm], fun here => by simp [expiries, here]⟩

theorem cons (h : Tallies (some (merge old a.count a.expiresAt)) as entry) :
    Tallies old (a :: as) entry := by
  have counted := h.count
  cases old with
  | none =>
      refine ⟨?_, h.last⟩
      simp only [merge, stacksOf, Option.map_some, Option.getD_some, Option.map_none, Option.getD_none,
        List.map_cons, List.sum_cons] at counted ⊢
      omega
  | some e =>
      refine ⟨?_, h.last.of_laterExpiry⟩
      simp only [merge, stacksOf, Option.map_some, Option.getD_some, List.map_cons,
        List.sum_cons] at counted ⊢
      omega

theorem applyAll {s : Statuses} {name : String} (fits : stacksOf (s.get? name) ≤ maxCount)
    (all : ∀ a ∈ as, a.status = name) (held : (s.applyAll as).get? name = some entry) :
    Tallies (s.get? name) as entry := by
  induction as generalizing s with
  | nil =>
      have there : s.get? name = some entry := held
      rw [there] at fits ⊢
      exact .nil fits
  | cons a as ih =>
      obtain ⟨here, rest⟩ := List.forall_mem_cons.mp all
      have first : (s.turn (.apply a)).get? name = some (merge (s.get? name) a.count a.expiresAt) := by
        rw [get?_turn_apply, if_pos here]
      refine .cons (first ▸ ih ?_ rest held)
      rw [first]
      change (merge _ _ _).count ≤ maxCount
      unfold merge
      split <;> exact min_le_right ..

end Tallies

/-! ## Removals -/

theorem removable_eq (s : Statuses) (name : String) (requested : Option Nat) :
    s.removable name requested =
      requested.elim (stacksOf (s.get? name)) fun n => min n (stacksOf (s.get? name)) := by
  unfold removable
  rw [stackCount_eq]
  cases requested <;> rfl

theorem withdraws_remove (s : Statuses) (name : String) (requested : Option Nat) :
    Withdraws requested (s.removable name requested) (s.get? name)
      ((s.remove name requested).get? name) := by
  have least : s.removable name requested ≤ stacksOf (s.get? name) :=
    s.stackCount_eq name ▸ s.removable_le name requested
  refine ⟨s.removable_eq name requested, ?_, fun {entry} held => ?_⟩
  · rw [get?_remove]
    cases was : s.get? name with
    | none =>
        rw [was] at least
        exact iff_of_true rfl (Nat.le_zero.mp least)
    | some old =>
        rw [was] at least
        change _ ≤ old.count at least
        change (if _ then _ else _) = none ↔ _ = old.count
        split
        · exact iff_of_true rfl (by omega)
        · exact iff_of_false nofun (by omega)
  · rw [get?_remove, Option.bind_eq_some_iff] at held
    obtain ⟨old, was, held⟩ := held
    rw [was] at least ⊢
    change _ ≤ old.count at least
    split at held
    · cases held
    · cases held
      exact ⟨Nat.sub_add_cancel least, rfl⟩

/-! ## Accounts -/

theorem Sound.accounts (sound : s.Sound) : s.Accounts where
  anyOrder := applyAll_perm
  absent := s.get?_applyAll_eq_none
  tallies {as name entry} held := by
    rw [get?_applyAll] at held
    refine .applyAll ?_ (fun a listed => by simpa using (List.mem_filter.mp listed).2) held
    cases there : s.get? name with
    | none => exact Nat.zero_le _
    | some old => exact (sound.counted there).2
  withdraws := s.withdraws_remove
  apart ts name := get?_turns_congr rfl ts

/-- After any turns every status in a table has stacks, and the counts follow the applications: their
order does not matter, stacks add up to the largest count, the latest expiry is kept, removals take no
more than there is, and statuses do not affect each other. -/
theorem ledger_kept (sound : s.Sound) {ts : List Turn} (stacked : ∀ a, .apply a ∈ ts → 0 < a.count) :
    (s.turns ts).Sound ∧ (s.turns ts).Accounts :=
  ⟨sound.turns stacked, (sound.turns stacked).accounts⟩

/-- A fire that is fed twice, is put out in part, and sees a tick. -/
def embers : List Turn :=
  [.apply ⟨"burning", 2, some 5⟩, .apply ⟨"burning", 4294967295, some 9⟩, .remove "burning" (some 3),
    .expire 5]

/-- The second application has no expiry, so neither has the status, in either order. -/
theorem embers_kept :
    (({} : Statuses).turns embers).get? "burning" = some ⟨4294967292, some 9⟩ ∧
      (({} : Statuses).turns embers).applyAll [⟨"burning", 1, none⟩, ⟨"burning", 9, some 7⟩] =
        (({} : Statuses).turns embers).applyAll [⟨"burning", 9, some 7⟩, ⟨"burning", 1, none⟩] ∧
      ((({} : Statuses).turns embers).applyAll
        [⟨"burning", 9, some 7⟩, ⟨"burning", 1, none⟩]).get? "burning" = some ⟨maxCount, none⟩ := by
  have stacked : ∀ a, .apply a ∈ embers → 0 < a.count := by
    intro a listed
    simp only [embers, List.mem_cons, Turn.apply.injEq, reduceCtorEq, List.not_mem_nil, or_false] at listed
    rcases listed with rfl | rfl <;> decide
  obtain ⟨-, accounts⟩ := ledger_kept .empty stacked
  exact ⟨by decide +kernel, accounts.anyOrder (.swap ..), by decide +kernel⟩

end Grimoire.Statuses
