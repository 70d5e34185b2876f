import Grimoire.Proofs.Call.Path

/-! # How deep calls go

Every call terminates, and it goes only as deep as the spellbook and its own operations allow: a body
that is opened for a part of an operation is paid for by the height of the operation, and a body that
runs a registered effect by one of the effects that are not on the path.
-/

namespace Grimoire

variable {α : Type}

/-! ## Heights -/

mutual

/-- How many bodies an operation opens within each other, without those that the effect of a chain or
a trigger opens in turn. -/
def Operation.height : Operation α → Nat
  | .act _ | .delay .. => 0
  | .chain .. | .trigger .. => 1
  | .conditional _ accepted none => heights accepted + 1
  | .conditional _ accepted (some refused) => max (heights accepted) (heights refused) + 1
  | .iterate _ body => heights body + 1

def Operation.heights : List (Operation α) → Nat
  | [] => 0
  | op :: ops => max op.height (heights ops)

end

def Spellbook.height (b : Spellbook α) : Nat :=
  b.effects.toList.foldr (fun entry most => max (Operation.heights entry.2.operations) most) 0

theorem Spellbook.heights_le {b : Spellbook α} {id : String} {e : Effect α}
    (h : b.require id = .ok e) : Operation.heights e.operations ≤ b.height := by
  have listed : (id, e) ∈ b.effects.toList :=
    Std.ExtTreeMap.mem_toList_iff_getElem?_eq_some.mpr (found_of_require h)
  unfold height
  generalize b.effects.toList = entries at listed ⊢
  induction entries with
  | nil => cases listed
  | cons entry entries ih =>
      rw [List.foldr_cons]
      rcases List.mem_cons.mp listed with rfl | later
      · exact Nat.le_max_left ..
      · exact Nat.le_trans (ih later) (Nat.le_max_right ..)

def Call.maxBodies (call : Call α) (b : Spellbook α) : Nat :=
  Operation.heights call.operations + b.size * b.height

namespace Pending

/-- How many bodies an entry opens within each other, counting its own and leaving out those of
further effects. -/
def height : Pending α → Nat
  | weigh e _ | effect e _ | chained _ e _ | triggered _ e => Operation.heights e.operations
  | targets _ ops | operations _ ops | rounds _ _ ops => Operation.heights ops
  | dispatch _ op => op.height
  | enter .nested inner => inner.height + 1
  | enter .. | close _ => 1

/-- How many entries can stand on the agenda for one before another body is opened. -/
def width : Pending α → Nat
  | dispatch .. | enter .. | close _ => 1
  | operations .. => 2
  | _ => 3

end Pending

theorem Pending.width_le (p : Pending α) : p.width ≤ 3 := by
  unfold width
  split <;> omega

theorem Pending.one_le_width (p : Pending α) : 1 ≤ p.width := by
  unfold width
  split <;> omega

namespace Body.Runs

variable {c : Cast α} {b : Body} {inner : Pending α}

theorem one_le_height (h : b.Runs c inner) : 1 ≤ (Pending.enter b inner).height := by
  cases h with
  | operations | rounds => exact Nat.le_add_left ..
  | chained | triggered => exact Nat.le_refl 1

theorem height_le (h : b.Runs c inner) :
    inner.height + 1 ≤
      (Pending.enter b inner).height + b.effect?.toList.length * c.book.height := by
  cases h with
  | operations | rounds => exact Nat.le_add_right ..
  | chained _ _ found | triggered _ found =>
      have low := Spellbook.heights_le found
      simp only [Pending.height, Body.effect?, Option.toList_some, List.length_singleton]
      omega

end Body.Runs

/-! ## The invariant -/

namespace Moment

/-- Whether an entry fits on the rest of an agenda: the bodies that are open and those that it opens
are paid for, and so are the entries. -/
structure Fits (base each : Nat) (p : Pending α) (rest : List (Pending α)) : Prop where
  height : (bodiesOf rest).length + p.height ≤ base + (effectsOf rest).length * each
  width : rest.length + p.width ≤ 3 * (bodiesOf rest).length + 3

def AllFit (base each : Nat) : List (Pending α) → Prop
  | [] => True
  | p :: rest => Fits base each p rest ∧ AllFit base each rest

variable {base each : Nat}

/-- What takes the place of an entry fits if it is no higher and no wider and opens no body. -/
theorem Fits.replace {p q : Pending α} {rest : List (Pending α)} (h : Fits base each p rest)
    (more : List (Pending α)) (bodies : bodiesOf more = []) (height : q.height ≤ p.height)
    (width : more.length + q.width ≤ p.width) : Fits base each q (more ++ rest) := by
  obtain ⟨high, wide⟩ := h
  have same : bodiesOf (more ++ rest) = bodiesOf rest := by
    rw [bodiesOf_append, bodies, List.nil_append]
  constructor
  · unfold effectsOf at high ⊢
    rw [same]
    omega
  · rw [same, List.length_append]
    omega

theorem AllFit.single {p q : Pending α} {rest : List (Pending α)} (h : AllFit base each (p :: rest))
    (height : q.height ≤ p.height) (width : q.width ≤ p.width) :
    AllFit base each (q :: rest) :=
  ⟨h.1.replace [] rfl height (by simpa using width), h.2⟩

theorem AllFit.pair {p q q' : Pending α} {rest : List (Pending α)}
    (h : AllFit base each (p :: rest)) (closed : q'.body? = none) (height : q.height ≤ p.height)
    (height' : q'.height ≤ p.height) (width : q.width + 1 ≤ p.width) (width' : q'.width ≤ p.width) :
    AllFit base each (q :: q' :: rest) := by
  refine ⟨h.1.replace [q'] ?_ height ?_, h.1.replace [] rfl height' ?_, h.2⟩
  · rw [bodiesOf_cons closed, bodiesOf_nil]
  · rw [List.length_singleton]
    omega
  · simpa using width'

theorem AllFit.leads {c : Cast α} {p : Pending α} {more rest : List (Pending α)}
    (h : AllFit base each (p :: rest)) (leads : p.Leads c more) :
    AllFit base each (more ++ rest) := by
  cases leads with
  | done => exact h.2
  | effect | targets | chained => exact h.single (Nat.le_refl _) (Nat.le_refl _)
  | triggered => exact h.single (Nat.le_refl _) (Nat.le_succ 2)
  | chain | trigger => exact h.single (Nat.le_refl _) (Nat.le_refl _)
  | accepted target condition accepted refused =>
      refine h.single ?_ (Nat.le_refl _)
      cases refused with
      | none => exact Nat.le_refl _
      | some ops =>
          simp only [Pending.height, Operation.height]
          omega
  | refused target condition accepted ops =>
      refine h.single ?_ (Nat.le_refl _)
      simp only [Pending.height, Operation.height]
      omega
  | rounds =>
      refine h.single ?_ (Nat.le_refl _)
      simp only [Pending.height, Operation.height, Nat.le_refl]
  | round => exact h.pair rfl (Nat.le_refl _) (Nat.le_refl _) (Nat.le_refl 3) (Nat.le_refl 3)

theorem AllFit.opens {c : Cast α} {b : Body} {inner : Pending α} {rest : List (Pending α)}
    (h : AllFit base c.book.height (.enter b inner :: rest)) (runs : b.Runs c inner) :
    AllFit base c.book.height (inner :: .close b :: rest) := by
  obtain ⟨⟨high, wide⟩, below⟩ := h
  have own : 1 ≤ (Pending.enter b inner).height := runs.one_le_height
  have paid := runs.height_le
  have narrow := inner.width_le
  have effects : (effectsOf (.close b :: rest)).length =
      b.effect?.toList.length + (effectsOf rest).length := by
    unfold effectsOf
    rw [bodiesOf_close, Body.effects_cons, List.length_append]
  have width : (Pending.enter b inner).width = 1 := rfl
  refine ⟨⟨?_, ?_⟩, ⟨?_, ?_⟩, below⟩
  · rw [effects, bodiesOf_close, List.length_cons, Nat.add_mul]
    omega
  · rw [bodiesOf_close, List.length_cons, List.length_cons]
    omega
  · have closes : (Pending.close b : Pending α).height = 1 := rfl
    omega
  · have closes : (Pending.close b : Pending α).width = 1 := rfl
    omega

theorem AllFit.transition [Scalar α] {c : Cast α} {m m' : Moment α} (sound : m.Sound c)
    (transition : c.Transition m m') (h : AllFit base c.book.height m.agenda) :
    AllFit base c.book.height m'.agenda := by
  cases transition with
  | idle => exact h
  | drop | close | fails | crowded | overruns | late | refuses => exact h.2
  | leads rest quiet leads calm => exact h.leads leads
  | known | meets =>
      exact h.pair rfl (Nat.le_refl _) (Nat.le_refl _) (Nat.le_refl 3) (Nat.le_refl 3)
  | counts =>
      exact h.pair rfl (Nat.le_max_left ..) (Nat.le_max_right ..) (Nat.le_refl 2) (Nat.le_refl 2)
  | opens inner rest room => exact h.opens (sound _ List.mem_cons_self)

theorem AllFit.length_bodies {agenda : List (Pending α)} (h : AllFit base each agenda) :
    (bodiesOf agenda).length ≤ base + (effectsOf agenda).length * each := by
  cases agenda with
  | nil => exact Nat.zero_le _
  | cons p rest =>
      have high := h.1.height
      cases closes : p.body? with
      | none =>
          unfold effectsOf at high ⊢
          rw [bodiesOf_cons closes]
          omega
      | some b =>
          obtain rfl := Pending.eq_close_of_body? closes
          have height : (Pending.close b : Pending α).height = 1 := rfl
          have more : (effectsOf rest).length * each ≤
              (effectsOf (.close b :: rest)).length * each := by
            refine Nat.mul_le_mul_right each ?_
            unfold effectsOf
            rw [bodiesOf_close, Body.effects_cons, List.length_append]
            exact Nat.le_add_left ..
          rw [bodiesOf_close, List.length_cons]
          omega

theorem AllFit.length_agenda {agenda : List (Pending α)} (h : AllFit base each agenda) :
    agenda.length ≤ 3 * (bodiesOf agenda).length + 3 := by
  cases agenda with
  | nil => exact Nat.zero_le _
  | cons p rest =>
      have wide := h.1.width
      have narrow := p.one_le_width
      have fewer : (bodiesOf rest).length ≤ (bodiesOf (p :: rest)).length :=
        ((List.sublist_cons_self p rest).filterMap _).length_le
      rw [List.length_cons]
      omega

end Moment

/-! ## Calls -/

variable [Scalar α]

/-- Whether a moment is the next one after another at which something is left. -/
def Cast.Next (c : Cast α) (m' m : Moment α) : Prop := m.agenda ≠ [] ∧ m' = c.step m

theorem Cast.acc_next {c : Cast α} {m : Moment α} (n : Nat) (h : (c.after n m).agenda = []) :
    Acc c.Next m := by
  induction n generalizing m with
  | zero => exact ⟨_, fun m' next => absurd h next.1⟩
  | succ n ih =>
      refine ⟨_, fun m' next => ?_⟩
      obtain ⟨-, rfl⟩ := next
      exact ih (c.after_add n 1 m ▸ h)

namespace Interpreter

variable (i : Interpreter α) (call : Call α) (w : World α) (clock : Clock) (n : Nat)

theorem moment_allFit :
    Moment.AllFit (Operation.heights call.operations) i.book.height
      (i.moment call w clock n).agenda := by
  refine moment_invariant (P := fun m =>
    Moment.AllFit (Operation.heights call.operations) i.book.height m.agenda) ?_ ?_ n
  · have opening := i.opening_cases call w clock
    generalize i.opening call w clock = m at opening
    cases opening with
    | refused | stopped => trivial
    | @ready p prepared =>
        have height : p.height = Operation.heights call.operations := by
          cases prepared with
          | cast => rfl
          | effect work | operations work => simp only [Call.operations, work, Pending.height]
        have narrow := p.width_le
        have nothing : Moment.bodiesOf ([] : List (Pending α)) = [] := rfl
        refine ⟨⟨?_, ?_⟩, trivial⟩
        · rw [nothing, List.length_nil]
          omega
        · rw [nothing, List.length_nil, List.length_nil]
          omega
  · exact fun sound transition fits => fits.transition sound transition

theorem length_effects_le : (i.moment call w clock n).effects.length ≤ i.book.size := by
  rcases i.moment_stacked call w clock n with nothing | stacked
  · have none : (i.moment call w clock n).effects = [] := congrArg Moment.effectsOf nothing
    rw [none]
    exact Nat.zero_le _
  · have path : (i.moment call w clock n).state.governor.path =
        (i.moment call w clock n).effects ++ call.seeded := stacked.path
    have distinct := stacked.nodup
    rw [path] at distinct
    refine Spellbook.length_le_size (List.nodup_append.mp distinct).1 fun id running => ?_
    obtain ⟨b, opened, runs⟩ := List.mem_filterMap.mp running
    obtain ⟨p, listed, closes⟩ := List.mem_filterMap.mp opened
    obtain rfl := Pending.eq_close_of_body? closes
    exact i.moment_sound call w clock n _ listed id runs

/-- Every call terminates, under any ceilings or none. No more chains and triggers are open at once than
effects are registered, and the open bodies and all that is left to do in them are bounded by the sizes
of the spellbook and of the operations of the call. -/
theorem run_terminates :
    (∃ last, (i.moment call w clock last).agenda = [] ∧
      i.run call w clock = finish (i.moment call w clock last).result) ∧
    Acc (i.cast call.caster w clock).Next (i.moment call w clock n) ∧
    (i.moment call w clock n).effects.length ≤ i.book.size ∧
    (i.moment call w clock n).bodies.length ≤ call.maxBodies i.book ∧
    (i.moment call w clock n).agenda.length ≤ 3 * call.maxBodies i.book + 3 := by
  have fits := i.moment_allFit call w clock n
  have effects := i.length_effects_le call w clock n
  have bodies : (i.moment call w clock n).bodies.length ≤ call.maxBodies i.book := by
    refine Nat.le_trans fits.length_bodies ?_
    exact Nat.add_le_add_left (Nat.mul_le_mul_right _ effects) _
  obtain ⟨last, nothing, run⟩ := i.exists_last call w clock
  refine ⟨⟨last, nothing, run⟩, ?_, effects, bodies, ?_⟩
  · refine Cast.acc_next last ?_
    have later : (i.cast call.caster w clock).after last (i.moment call w clock n) =
        i.moment call w clock (last + n) := (Cast.after_add _ last n _).symm
    rw [later, moment_of_last nothing]
    exact nothing
  · refine Nat.le_trans fits.length_agenda ?_
    exact Nat.add_le_add_right (Nat.mul_le_mul_left 3 bodies) 3

end Interpreter

end Grimoire
