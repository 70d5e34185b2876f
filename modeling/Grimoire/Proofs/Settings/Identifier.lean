import Grimoire.Identifier
import Mathlib.Data.List.Infix

/-! # Identifiers

The check of an identifier looks for forbidden fragments and then goes through the characters.  What
each of the two lets pass is stated here for the whole text: no fragment of the list lies anywhere in it,
and it is a letter followed by letters, digits and underscores.
-/

namespace Grimoire.Identifier

variable {s : String}

/-- Whether a text contains none of the forbidden fragments. -/
def IsClean (s : String) : Prop :=
  ∀ fragment ∈ forbiddenFragments, ¬ fragment.toList <:+: s.toList

/-- Whether a text is a letter followed by letters, digits and underscores, and not too long. -/
structure IsShaped (s : String) : Prop where
  spelled : ∃ first later, s.toList = first :: later ∧ isFirst first = true ∧
    ∀ c ∈ later, isLater c = true
  short : s.utf8ByteSize ≤ maxLength

theorem occursIn_iff {part : List Char} : ∀ {cs : List Char}, occursIn part cs = true ↔ part <:+: cs
  | [] => by rw [occursIn, List.isEmpty_iff, List.infix_nil]
  | c :: cs => by
      rw [occursIn, Bool.or_eq_true, List.isPrefixOf_iff_prefix, occursIn_iff, List.infix_cons_iff]

theorem fragmentRejection?_eq_none_iff : fragmentRejection? s = none ↔ IsClean s := by
  rw [fragmentRejection?, Option.map_eq_none_iff, forbiddenFragment?, List.find?_eq_none]
  exact forall₂_congr fun fragment _ => not_congr occursIn_iff

theorem characterRejection?_eq_none_iff :
    characterRejection? s = none ↔ IsShaped s ∧ isReserved s = false := by
  unfold characterRejection?
  constructor
  · intro passes
    split at passes
    · cases passes
    next first later spelled =>
      split at passes
      · cases passes
      next short =>
        split at passes
        · cases passes
        next letter =>
          split at passes
          · cases passes
          next all =>
            refine ⟨⟨⟨first, later, spelled, by simpa using letter, ?_⟩, Nat.le_of_not_lt short⟩, ?_⟩
            · intro c listed
              simpa using List.find?_eq_none.mp all c listed
            · simpa using passes
  · rintro ⟨⟨⟨first, later, spelled, letter, all⟩, short⟩, free⟩
    have none_left : later.find? (!isLater ·) = none :=
      List.find?_eq_none.mpr fun c listed => by simp [all c listed]
    simp [spelled, letter, none_left, free, short]

theorem isValid_iff : isValid s = true ↔ rejection? s = none := by
  unfold isValid
  exact Option.isNone_iff_eq_none

theorem isValid_iff_isClean_and_isShaped :
    isValid s = true ↔ IsClean s ∧ IsShaped s ∧ isReserved s = false := by
  rw [isValid_iff, rejection?, ← fragmentRejection?_eq_none_iff, ← characterRejection?_eq_none_iff]
  cases fragmentRejection? s <;> simp

/-! ## Identifiers in longer texts -/

theorem isLater_of_isFirst {c : Char} (h : isFirst c = true) : isLater c = true := by
  have letter : c.isAlpha = true := h
  simp [isLater, Char.isAlphanum, letter]

theorem isLater_of_spelled {first : Char} {later : List Char} (spelled : s.toList = first :: later)
    (letter : isFirst first = true) (all : ∀ c ∈ later, isLater c = true) {c : Char}
    (listed : c ∈ s.toList) : isLater c = true := by
  rw [spelled] at listed
  rcases List.mem_cons.mp listed with rfl | listed
  · exact isLater_of_isFirst letter
  · exact all c listed

namespace IsShaped

theorem isLater_of_mem (h : IsShaped s) {c : Char} (listed : c ∈ s.toList) : isLater c = true := by
  obtain ⟨first, later, spelled, letter, all⟩ := h.spelled
  exact isLater_of_spelled spelled letter all listed

theorem toList_ne_nil (h : IsShaped s) : s.toList ≠ [] := by
  obtain ⟨first, later, spelled, -, -⟩ := h.spelled
  rw [spelled]
  exact List.cons_ne_nil first later

end IsShaped

end Grimoire.Identifier
