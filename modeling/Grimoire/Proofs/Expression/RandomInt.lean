import Grimoire.Proofs.Expression.Safety
import Grimoire.Proofs.Number.Nearest
import Grimoire.Proofs.Random.Range

/-! # Random whole numbers

`random_int` makes its two arguments whole numbers of a word, draws a number between them and converts
it back.  Both conversions are specified on the rational numbers that doubles stand for.
-/

namespace Grimoire

/-- The whole number of a word that is the nearest to a finite double; a half goes away from zero. -/
def Double.word (x : Float) : Int :=
  Rounding.confine (-2 ^ 63) (2 ^ 63 - 1) (awayFromZero (Double.value x))

namespace Function

theorem bound_eq_word {x : Float} (finite : x.isFinite = true) : bound x = Double.word x :=
  Double.saturate_round finite _ _

theorem exists_toInt_eq_word (x : Float) : ∃ a : Int64, a.toInt = Double.word x := by
  have range : -2 ^ 63 ≤ Double.word x ∧ Double.word x ≤ 2 ^ 63 - 1 := by
    unfold Double.word Rounding.confine
    omega
  exact ⟨Int64.ofInt (Double.word x), Int64.toInt_ofInt_of_le (by omega) (by omega)⟩

end Function

namespace Expr

variable {b : Bindings Float} {e₁ e₂ : Expr Float} {s s₁ s₂ : Stream} {x y : Float}

theorem apply_randomInt (hx : x.isFinite = true) (hy : y.isFinite = true) :
    ∃ (n : Int) (z : Float), Function.randomInt.apply b [.number x, .number y] s =
        .ok (.number z) (Stream.between (Double.word x) (Double.word y) s).2 ∧
      Double.IsNearest z n ∧ min (Double.word x) (Double.word y) ≤ n ∧
      n ≤ max (Double.word x) (Double.word y) := by
  obtain ⟨a, own⟩ := Function.exists_toInt_eq_word x
  obtain ⟨c, own'⟩ := Function.exists_toInt_eq_word y
  obtain ⟨least, most⟩ := Stream.between_mem a c s
  have above := a.le_toInt
  have above' := c.le_toInt
  have below := a.toInt_lt
  have below' := c.toInt_lt
  obtain ⟨n, drawn⟩ : ∃ n, n = (Stream.between a.toInt c.toInt s).1 := ⟨_, rfl⟩
  rw [← drawn] at least most
  have near : Double.IsNearest (Double.ofInt n) n :=
    Double.isNearest_ofInt (by omega) (by omega)
  rw [← own, ← own']
  refine ⟨n, Double.ofInt n, ?_, near, least, most⟩
  have answer : Value.finite Function.randomInt.name (Double.ofInt n) =
      (pure (.number (Double.ofInt n)) : Draw (Value Float)) := if_pos near.finite
  change (Draw.draw (Stream.between (Function.bound x) (Function.bound y)) >>= fun n =>
    Value.finite Function.randomInt.name (Double.ofInt n)) s = _
  rw [Function.bound_eq_word hx, Function.bound_eq_word hy, ← own, ← own']
  change Value.finite Function.randomInt.name (Double.ofInt (Stream.between a.toInt c.toInt s).1)
    (Stream.between a.toInt c.toInt s).2 = _
  rw [← drawn, answer]
  rfl

theorem eval_randomInt : (call "random_int" [e₁, e₂]).eval b =
    evalAll b [e₁, e₂] >>= Function.randomInt.apply b := by
  have named : Function.ofName "random_int" = .ok .randomInt := by decide +kernel
  rw [eval, named]
  rfl

theorem evalAll_pair {v w : Value Float} (first : e₁.eval b s = .ok v s₁)
    (second : e₂.eval b s₁ = .ok w s₂) : evalAll b [e₁, e₂] s = .ok [v, w] s₂ := by
  have rest : evalAll b [e₂] s₁ = .ok [w] s₂ := by
    rw [evalAll, Run.bind_ok second]
    rfl
  rw [evalAll, Run.bind_ok first, Run.bind_ok rest]
  rfl

/-- Words are drawn until one is accepted, and the answer lies between the two bounds, in whichever
order they are given. `Stream.between` draws this answer unless it runs out of patience, and stays
between the bounds in any case. A call of `random_int` on finite numbers gives the double nearest to a
whole number in range. -/
theorem random_int_in_range :
    (∀ (a b v w : Int64) (s s' s'' : Stream), Stream.Draws a b s v s' →
      min a.toInt b.toInt ≤ v.toInt ∧ v.toInt ≤ max a.toInt b.toInt ∧ Stream.Draws b a s v s' ∧
      (Stream.Draws b a s w s'' → w = v ∧ s'' = s') ∧
      (s'.drawn ≤ s.drawn + Stream.patience →
        Stream.between a.toInt b.toInt s = (v.toInt, s'))) ∧
    (∀ (a b : Int64) (s : Stream),
      min a.toInt b.toInt ≤ (Stream.between a.toInt b.toInt s).1 ∧
      (Stream.between a.toInt b.toInt s).1 ≤ max a.toInt b.toInt ∧
      Stream.between a.toInt b.toInt s = Stream.between b.toInt a.toInt s ∧
      ((∃ v, Stream.Draws a b s v (Stream.between a.toInt b.toInt s).2 ∧
          (Stream.between a.toInt b.toInt s).1 = v.toInt) ∨
        (Stream.between a.toInt b.toInt s).2.drawn = s.drawn + Stream.patience)) ∧
    (∀ (b : Bindings Float) (e₁ e₂ : Expr Float) (x y : Float) (s s₁ s₂ : Stream),
      e₁.eval b s = .ok (.number x) s₁ → e₂.eval b s₁ = .ok (.number y) s₂ →
      x.isFinite = true → y.isFinite = true →
      ∃ (n : Int) (z : Float), (call "random_int" [e₁, e₂]).eval b s =
          .ok (.number z) (Stream.between (Double.word x) (Double.word y) s₂).2 ∧
        Double.IsNearest z n ∧ min (Double.word x) (Double.word y) ≤ n ∧
        n ≤ max (Double.word x) (Double.word y)) := by
  refine ⟨fun a b v w s s' s'' drawn => ?_, fun a b s => ?_, ?_⟩
  · obtain ⟨least, most⟩ := drawn.mem
    have turned : Stream.Draws b a s v s' := Stream.Draws.comm (a := a) ▸ drawn
    exact ⟨least, most, turned, fun other => other.unique turned, drawn.between_eq⟩
  · obtain ⟨least, most⟩ := Stream.between_mem a b s
    exact ⟨least, most, congrFun (Stream.between_comm a.toInt b.toInt) s, Stream.between_draws a b s⟩
  · intro b e₁ e₂ x y s s₁ s₂ first second hx hy
    obtain ⟨n, z, answer, near, least, most⟩ := apply_randomInt (b := b) (s := s₂) hx hy
    refine ⟨n, z, ?_, near, least, most⟩
    rw [eval_randomInt, Run.bind_ok (evalAll_pair first second), answer]

/-! ## A die -/

theorem get_words (key : Vector UInt32 8) (number : UInt64) (i : Fin 16) :
    (Block.words key number).get i =
      (Block.doubleRound (Block.doubleRound (Block.doubleRound (Block.doubleRound
        (Block.initial key number))))).get i + (Block.initial key number).get i := by
  simp [Block.words, Vector.get_eq_getElem]

theorem wordAt_seven :
    Stream.wordAt 7 0 = 2910824217569608635 ∧ Stream.wordAt 7 1 = 3098856782162503994 := by
  unfold Stream.wordAt
  dsimp only
  rw [get_words, get_words, get_words, get_words]
  decide +kernel

theorem draws_die : Stream.Draws 6 1 (.ofSeed 7) 2 ⟨7, 2⟩ := by
  obtain ⟨first, second⟩ := wordAt_seven
  have beyond : ¬ (Stream.wordAt 7 0) * 6 ≤ Stream.zone 6 := by
    rw [first]
    decide
  have inside : (Stream.wordAt 7 1) * 6 ≤ Stream.zone 6 := by
    rw [second]
    decide
  have offset : Stream.upperHalf (Stream.wordAt 7 1) 6 = 1 := by
    rw [second]
    decide
  have below : Stream.DrawsBelow 6 (.ofSeed 7) 1 ⟨7, 2⟩ :=
    .refuse beyond (offset ▸ .accept (s := ⟨7, 1⟩) inside)
  have ordered : Stream.DrawsOrdered 1 6 (.ofSeed 7) (1 + (1 : UInt64).toInt64) ⟨7, 2⟩ :=
    .shifted (by decide) below
  exact ordered

theorem die_in_range :
    Stream.Draws 6 1 (.ofSeed 7) 2 ⟨7, 2⟩ ∧ Stream.Draws 1 6 (.ofSeed 7) 2 ⟨7, 2⟩ ∧
      Stream.between 6 1 (.ofSeed 7) = (2, ⟨7, 2⟩) ∧
      ∃ (n : Int) (z : Float), (call "random_int" [.number 6, .number 1]).eval
          (⟨.empty, 1, none⟩ : Bindings Float) (.ofSeed 7) = .ok (.number z) ⟨7, 2⟩ ∧
        Double.IsNearest z n ∧ 1 ≤ n ∧ n ≤ 6 := by
  obtain ⟨drawn, -, called⟩ := random_int_in_range
  obtain ⟨-, -, turned, -, between⟩ := drawn 6 1 2 2 (.ofSeed 7) ⟨7, 2⟩ ⟨7, 2⟩ draws_die
  have same : Stream.between 6 1 (.ofSeed 7) = (2, ⟨7, 2⟩) := between (by decide)
  obtain ⟨n, z, answer, near, least, most⟩ := called ⟨.empty, 1, none⟩ (.number 6) (.number 1) 6 1
    (.ofSeed 7) (.ofSeed 7) (.ofSeed 7) rfl rfl (by decide +kernel) (by decide +kernel)
  have six : Double.word 6 = 6 := by decide +kernel
  have one : Double.word 1 = 1 := by decide +kernel
  rw [six, one] at answer least most
  rw [same] at answer
  exact ⟨draws_die, turned, same, n, z, answer, near, least, most⟩

end Expr

end Grimoire
