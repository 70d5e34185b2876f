import Grimoire.Json.Reader
import Grimoire.Json.Writer
import Mathlib.Data.List.TakeWhile

/-! # Reading numbers and texts that were written

In a document a value is followed by a comma, by a closing bracket or by nothing.  None of these goes on
with a number, so a reader of numbers that reads a text to its end reads it the same way in a document:
it leaves what follows.  The digits of a natural number and the characters of a text are read back as
they were written, whatever follows.
-/

namespace Grimoire

namespace Json

/-- Whether what follows a value does not go on with it. -/
def Ended (rest : List Char) : Prop :=
  ∀ c ∈ rest.head?, c = ',' ∨ c = ']' ∨ c = '\x7d'

theorem Ended.nil : Ended [] := fun _ listed => absurd listed (by simp)

theorem Ended.cons {c : Char} {rest : List Char} (h : c = ',' ∨ c = ']' ∨ c = '\x7d') :
    Ended (c :: rest) := by
  rintro d ⟨⟩
  exact h

def IsLocal {β : Type} (read : List Char → Option (β × List Char)) : Prop :=
  ∀ ⦃cs : List Char⦄ ⦃x : β⦄ ⦃left rest : List Char⦄, read cs = some (x, left) → Ended rest →
    read (cs ++ rest) = some (x, left ++ rest)

theorem IsLocal.map {β γ : Type} {read : List Char → Option (β × List Char)} (h : IsLocal read)
    (f : β → γ) : IsLocal fun cs => (read cs).map fun (x, rest) => (f x, rest) := by
  intro cs y left rest found ended
  obtain ⟨⟨x, left'⟩, hx, hy⟩ := Option.map_eq_some_iff.mp found
  cases hy
  simp only [h hx ended, Option.map_some]

/-! ## Digits -/

theorem isDigit_eq_false_of_ended {c : Char} {rest : List Char} (h : Ended (c :: rest)) :
    c.isDigit = false := by
  obtain rfl | rfl | rfl := h c rfl <;> rfl

theorem takeWhile_isDigit_append {rest : List Char} (ended : Ended rest) : ∀ cs : List Char,
    (cs ++ rest).takeWhile Char.isDigit = cs.takeWhile Char.isDigit
  | [] => by
      cases rest with
      | nil => rfl
      | cons c rest => simp [isDigit_eq_false_of_ended ended]
  | c :: cs => by
      cases h : c.isDigit <;> simp [h, takeWhile_isDigit_append ended cs]

theorem dropWhile_isDigit_append {rest : List Char} (ended : Ended rest) : ∀ cs : List Char,
    (cs ++ rest).dropWhile Char.isDigit = cs.dropWhile Char.isDigit ++ rest
  | [] => by
      cases rest with
      | nil => rfl
      | cons c rest => simp [isDigit_eq_false_of_ended ended]
  | c :: cs => by
      cases h : c.isDigit <;> simp [h, dropWhile_isDigit_append ended cs]

theorem isLocal_readDigits : IsLocal readDigits := by
  intro cs ds left rest found ended
  unfold readDigits at found ⊢
  rw [takeWhile_isDigit_append ended, dropWhile_isDigit_append ended]
  split at found
  · contradiction
  · cases found
    rfl

theorem isLocal_readWhole : IsLocal readWhole := by
  intro cs ds left rest found ended
  unfold readWhole at found ⊢
  split at found
  · contradiction
  next fits =>
    rw [isLocal_readDigits found ended]
    split
    next again =>
      cases again
      exact absurd found (fits _ _ _)
    · rfl

/-! ## Numbers -/

theorem readFraction_of_ne {c : Char} (h : c ≠ '.') (cs : List Char) :
    readFraction (c :: cs) = some (none, c :: cs) := by
  unfold readFraction
  split
  next again => exact absurd (List.cons.inj again).1 h
  · rfl

theorem isLocal_readFraction : IsLocal readFraction := by
  intro cs x left rest found ended
  match cs with
  | [] =>
      cases found
      match rest with
      | [] => rfl
      | c :: rest =>
        refine readFraction_of_ne ?_ rest
        obtain rfl | rfl | rfl := ended c rfl <;> decide
  | c :: cs =>
      by_cases h : c = '.'
      · subst h
        exact isLocal_readDigits.map some found ended
      · rw [readFraction_of_ne h] at found
        cases found
        exact readFraction_of_ne h _

theorem readExponentDigits_of_ne {c : Char} (minus : c ≠ '-') (plus : c ≠ '+') (cs : List Char) :
    readExponentDigits (c :: cs)
      = (readDigits (c :: cs)).map fun (ds, rest) => ((digitsValue ds : Int), rest) := by
  unfold readExponentDigits
  split
  next again => exact absurd (List.cons.inj again).1 minus
  next again => exact absurd (List.cons.inj again).1 plus
  · rfl

theorem isLocal_readExponentDigits : IsLocal readExponentDigits := by
  intro cs x left rest found ended
  match cs with
  | [] => contradiction
  | c :: cs =>
      by_cases minus : c = '-'
      · subst minus
        exact isLocal_readDigits.map (fun ds => -(digitsValue ds : Int)) found ended
      by_cases plus : c = '+'
      · subst plus
        exact isLocal_readDigits.map (fun ds => (digitsValue ds : Int)) found ended
      rw [readExponentDigits_of_ne minus plus] at found
      rw [List.cons_append, readExponentDigits_of_ne minus plus]
      exact isLocal_readDigits.map (fun ds => (digitsValue ds : Int)) found ended

theorem readExponent_of_ne {c : Char} (small : c ≠ 'e') (large : c ≠ 'E') (cs : List Char) :
    readExponent (c :: cs) = some (none, c :: cs) := by
  unfold readExponent
  split
  next again => exact absurd (List.cons.inj again).1 small
  next again => exact absurd (List.cons.inj again).1 large
  · rfl

theorem isLocal_readExponent : IsLocal readExponent := by
  intro cs x left rest found ended
  match cs with
  | [] =>
      cases found
      match rest with
      | [] => rfl
      | c :: rest =>
        refine readExponent_of_ne ?_ ?_ rest <;>
          obtain rfl | rfl | rfl := ended c rfl <;> decide
  | c :: cs =>
      by_cases small : c = 'e'
      · subst small
        exact isLocal_readExponentDigits.map some found ended
      by_cases large : c = 'E'
      · subst large
        exact isLocal_readExponentDigits.map some found ended
      rw [readExponent_of_ne small large] at found
      cases found
      exact readExponent_of_ne small large _

theorem isLocal_readUnsigned (negative : Bool) : IsLocal (readUnsigned negative) := by
  intro cs n left rest found ended
  unfold readUnsigned at found ⊢
  simp only [Option.bind_eq_bind, Option.bind_eq_some_iff, Prod.exists] at found ⊢
  obtain ⟨whole, cs₁, hw, fraction, cs₂, hf, exponent, cs₃, he, hn⟩ := found
  cases hn
  exact ⟨_, _, isLocal_readWhole hw ended, _, _, isLocal_readFraction hf ended, _, _,
    isLocal_readExponent he ended, rfl⟩

theorem readNumeral_of_ne {c : Char} (h : c ≠ '-') (cs : List Char) :
    readNumeral (c :: cs) = readUnsigned false (c :: cs) := by
  unfold readNumeral
  split
  next again => exact absurd (List.cons.inj again).1 h
  · rfl

theorem isLocal_readNumeral : IsLocal readNumeral := by
  intro cs n left rest found ended
  match cs with
  | [] => contradiction
  | c :: cs =>
      by_cases h : c = '-'
      · subst h
        exact isLocal_readUnsigned true found ended
      · rw [readNumeral_of_ne h] at found
        rw [List.cons_append, readNumeral_of_ne h]
        exact isLocal_readUnsigned false found ended

theorem head_of_readNumeral {cs left : List Char} {n : Numeral}
    (h : readNumeral cs = some (n, left)) :
    ∃ c tail, cs = c :: tail ∧ (c = '-' ∨ c.isDigit = true) := by
  match cs with
  | [] => contradiction
  | c :: tail =>
      refine ⟨c, tail, rfl, Classical.byContradiction fun neither => ?_⟩
      obtain ⟨minus, digit⟩ := not_or.mp neither
      rw [readNumeral_of_ne minus] at h
      have none : readWhole (c :: tail) = none := by
        simp [readWhole, readDigits, digit]
      simp [readUnsigned, none] at h

/-! ## Natural numbers -/

theorem head_toDigits_ne {n : Nat} (h : 0 < n) : (Nat.toDigits 10 n).head? ≠ some '0' := by
  induction n using Nat.strongRecOn with
  | ind n ih =>
      rw [Nat.toDigits_eq_if (by decide)]
      split
      next small =>
        have cases10 : ∀ m < 10, 0 < m → m.digitChar ≠ '0' := by decide
        simpa using cases10 n small h
      next large =>
        have shorter := ih (n / 10) (by omega) (by omega)
        cases tail : Nat.toDigits 10 (n / 10) with
        | nil => exact absurd tail Nat.toDigits_ne_nil
        | cons c cs => simpa [tail] using shorter

theorem readWhole_toDigits (n : Nat) :
    readWhole (Nat.toDigits 10 n) = some (Nat.toDigits 10 n, []) := by
  have digits : ∀ c ∈ Nat.toDigits 10 n, c.isDigit = true := fun c listed =>
    Nat.isDigit_of_mem_toDigits (by decide) (by decide) listed
  have all : readDigits (Nat.toDigits 10 n) = some (Nat.toDigits 10 n, []) := by
    unfold readDigits
    rw [List.takeWhile_eq_self_iff.mpr digits, List.dropWhile_eq_nil_iff.mpr digits]
    split
    next empty => exact absurd empty Nat.toDigits_ne_nil
    · rfl
  unfold readWhole
  rw [all]
  split
  next zero =>
    have shape := (Prod.mk.inj (Option.some.inj zero)).1
    by_cases h : n = 0
    · subst h
      cases shape
    · exact absurd (by rw [shape]; rfl) (head_toDigits_ne (Nat.pos_of_ne_zero h))
  · rfl

theorem digitsValue_toDigits (n : Nat) : digitsValue (Nat.toDigits 10 n) = n :=
  Nat.ofDigitChars_toDigits (by decide) (by decide)

theorem readNumeral_toDigits (n : Nat) :
    readNumeral (Nat.toDigits 10 n) = some (⟨false, Nat.toDigits 10 n, [], none, true⟩, []) := by
  have unsigned : readUnsigned false (Nat.toDigits 10 n)
      = some (⟨false, Nat.toDigits 10 n, [], none, true⟩, []) := by
    unfold readUnsigned
    rw [readWhole_toDigits]
    rfl
  cases shape : Nat.toDigits 10 n with
  | nil => exact absurd shape Nat.toDigits_ne_nil
  | cons c cs =>
      have digit : c.isDigit = true :=
        Nat.isDigit_of_mem_toDigits (b := 10) (n := n) (by decide) (by decide) (by simp [shape])
      rw [readNumeral_of_ne (by rintro rfl; contradiction), ← shape]
      exact unsigned

theorem value_toDigits {n : Nat} (fits : n < twoTo 64) :
    Numeral.value ⟨false, Nat.toDigits 10 n, [], none, true⟩ = int n := by
  simp [Numeral.value, digitsValue_toDigits, fits]

/-! ## Texts -/

theorem hexValue?_digitChar : ∀ n < 16, hexValue? (Nat.digitChar n) = some n := by decide

theorem readEscape_unicode {c : Char} (small : c.toNat < 32) (cs : List Char) :
    readEscape ('u' :: '0' :: '0' :: Nat.digitChar (c.toNat / 16) ::
      Nat.digitChar (c.toNat % 16) :: cs) = some (some c, cs) := by
  have high := hexValue?_digitChar (c.toNat / 16) (by omega)
  have low := hexValue?_digitChar (c.toNat % 16) (by omega)
  have unit : readUnit ('0' :: '0' :: Nat.digitChar (c.toNat / 16) ::
      Nat.digitChar (c.toNat % 16) :: cs) = some (c.toNat, cs) := by
    have zero : hexValue? '0' = some 0 := rfl
    have value : ((0 * 16 + 0) * 16 + c.toNat / 16) * 16 + c.toNat % 16 = c.toNat := by omega
    simp only [readUnit, zero, high, low, Option.bind_eq_bind, Option.bind_some, value]
  change readUnicode _ = _
  simp only [readUnicode, unit, Option.bind_eq_bind, Option.bind_some]
  rw [if_neg (by omega), if_neg (by omega), Char.ofNat_toNat]

theorem readTextFrom_backslash {cs rest : List Char} {e : Char}
    (h : readEscape cs = some (some e, rest)) (fuel : Nat) (done : List Char) :
    readTextFrom (fuel + 1) ('\\' :: cs) (some done) = readTextFrom fuel rest (some (e :: done)) := by
  rw [readTextFrom, if_neg (by decide), if_pos rfl, h]
  rfl

theorem readTextFrom_escape (fuel : Nat) (c : Char) (cs done : List Char) :
    readTextFrom (fuel + 1) (escape c ++ cs) (some done)
      = readTextFrom fuel cs (some (c :: done)) := by
  unfold escape
  repeat' split
  iterate 7
    · subst_vars
      exact readTextFrom_backslash rfl fuel done
  next small => exact readTextFrom_backslash (readEscape_unicode small cs) fuel done
  next quote backslash _ _ _ _ _ large =>
    rw [List.singleton_append, readTextFrom, if_neg quote, if_neg backslash, if_neg large]
    rfl

theorem readTextFrom_escapes (rest : List Char) : ∀ (cs : List Char) (fuel : Nat) (done : List Char),
    cs.length < fuel → readTextFrom fuel (cs.flatMap escape ++ '"' :: rest) (some done)
      = some (some (String.ofList (done.reverse ++ cs)), rest)
  | [], fuel + 1, done, _ => by simp [readTextFrom]
  | c :: cs, fuel + 1, done, enough => by
      rw [List.flatMap_cons, List.append_assoc, readTextFrom_escape,
        readTextFrom_escapes rest cs fuel (c :: done) (by simpa using enough)]
      simp

theorem length_le_length_escapes (cs : List Char) : cs.length ≤ (cs.flatMap escape).length := by
  induction cs with
  | nil => exact Nat.le_refl _
  | cons c cs ih =>
      have one : 1 ≤ (escape c).length := by
        unfold escape
        repeat' split
        all_goals simp
      simp only [List.flatMap_cons, List.length_append, List.length_cons]
      omega

theorem readText_escapes (s : String) (rest : List Char) :
    readText (s.toList.flatMap escape ++ '"' :: rest) = some (some s, rest) := by
  have enough : s.toList.length < (s.toList.flatMap escape ++ '"' :: rest).length := by
    have := length_le_length_escapes s.toList
    simp only [List.length_append, List.length_cons]
    omega
  unfold readText
  rw [readTextFrom_escapes rest s.toList _ [] enough]
  simp

end Json

end Grimoire
