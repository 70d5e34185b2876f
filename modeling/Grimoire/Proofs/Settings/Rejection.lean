import Grimoire.Proofs.Settings.Identifier
import Mathlib.Data.String.Basic

/-! # What is wrong with a text

An identifier is described here by its spelling: letters, digits and underscores, how many, and which
names are taken.  Of the forbidden fragments only the double underscore is left in this description,
since every other one has a character that no identifier is made of.

A text that is no identifier has flaws.  Each kind of flaw is described by itself, whatever else may be
wrong with the text, and a text is rejected for the earliest kind in one fixed order.
-/

namespace Grimoire.Identifier

variable {s : String}

/-! ## Characters -/

def IsLetter (c : Char) : Prop := 'A' ≤ c ∧ c ≤ 'Z' ∨ 'a' ≤ c ∧ c ≤ 'z'

/-- Whether a character is an ASCII letter, an ASCII digit or an underscore. -/
def IsWordCharacter (c : Char) : Prop := IsLetter c ∨ '0' ≤ c ∧ c ≤ '9' ∨ c = '_'

theorem within_iff {low high c : Char} :
    (decide (low ≤ c) && decide (c ≤ high)) = true ↔ low ≤ c ∧ c ≤ high := by
  rw [Bool.and_eq_true, decide_eq_true_iff, decide_eq_true_iff]

theorem isFirst_iff {c : Char} : isFirst c = true ↔ IsLetter c := by
  have upper : c.isUpper = true ↔ 'A' ≤ c ∧ c ≤ 'Z' := decide_eq_true_iff
  have lower : c.isLower = true ↔ 'a' ≤ c ∧ c ≤ 'z' := within_iff
  have letter : isFirst c = (c.isUpper || c.isLower) := rfl
  rw [letter, Bool.or_eq_true, upper, lower, IsLetter]

theorem isLater_iff {c : Char} : isLater c = true ↔ IsWordCharacter c := by
  have digit : c.isDigit = true ↔ '0' ≤ c ∧ c ≤ '9' := within_iff
  have word : isLater c = (isFirst c || c.isDigit || decide (c = '_')) := rfl
  rw [word, Bool.or_eq_true, Bool.or_eq_true, isFirst_iff, digit, decide_eq_true_iff, or_assoc,
    IsWordCharacter]

theorem utf8Size_of_isLater {c : Char} (h : isLater c = true) : c.utf8Size = 1 := by
  have below {last : Char} (least : last ≤ '\x7f') (h : c ≤ last) : c.val ≤ 127 := h.trans least
  rw [Char.utf8Size_eq_one_iff]
  rcases isLater_iff.mp h with (⟨-, upper⟩ | ⟨-, lower⟩) | ⟨-, digit⟩ | rfl
  · exact below (by decide) upper
  · exact below (by decide) lower
  · exact below (by decide) digit
  · decide

/-! ## The spelling of identifiers -/

/-- Whether a text is a letter followed by letters, digits and underscores. -/
def IsSpelled (s : String) : Prop :=
  ∃ first later, s.toList = first :: later ∧ IsLetter first ∧ ∀ c ∈ later, IsWordCharacter c

/-- What an identifier is, said of its characters: how many there are is counted in characters too, and
a name is reserved in any case of its letters. -/
structure IsIdentifier (s : String) : Prop where
  spelled : IsSpelled s
  short : s.length ≤ 64
  apart : ¬ ['_', '_'] <:+: s.toList
  free : s.toLower ∉ reservedNames

theorem isSpelled_iff :
    IsSpelled s ↔ ∃ first later, s.toList = first :: later ∧ isFirst first = true ∧
      ∀ c ∈ later, isLater c = true := by
  simp only [IsSpelled, isFirst_iff, isLater_iff]

theorem utf8Len_eq_length {cs : List Char} (narrow : ∀ c ∈ cs, c.utf8Size = 1) :
    String.utf8Len cs = cs.length := by
  induction cs with
  | nil => rfl
  | cons c cs ih =>
      rw [String.utf8Len_cons, ih fun d listed => narrow d (List.mem_cons_of_mem c listed),
        narrow c List.mem_cons_self, List.length_cons]

theorem IsSpelled.utf8ByteSize_eq (h : IsSpelled s) : s.utf8ByteSize = s.length := by
  obtain ⟨first, later, spelled, letter, all⟩ := isSpelled_iff.mp h
  have narrow : ∀ c ∈ s.toList, c.utf8Size = 1 := fun c listed =>
    utf8Size_of_isLater (isLater_of_spelled spelled letter all listed)
  rw [← String.length_toList, ← utf8Len_eq_length narrow, ← String.utf8ByteSize_ofList,
    String.ofList_toList]

theorem isShaped_iff : IsShaped s ↔ IsSpelled s ∧ s.length ≤ 64 := by
  constructor
  · intro shaped
    have spelled := isSpelled_iff.mpr shaped.spelled
    exact ⟨spelled, spelled.utf8ByteSize_eq ▸ shaped.short⟩
  · rintro ⟨spelled, short⟩
    exact ⟨isSpelled_iff.mp spelled, spelled.utf8ByteSize_eq ▸ short⟩

theorem forbiddenFragments_foreign :
    ∀ fragment ∈ forbiddenFragments, fragment = "__" ∨ fragment.toList.all isLater = false := by
  decide

/-- Of the forbidden fragments only the double underscore can lie in what is shaped like an
identifier. -/
theorem IsShaped.isClean_iff (h : IsShaped s) : IsClean s ↔ ¬ ['_', '_'] <:+: s.toList := by
  constructor
  · intro clean
    exact clean "__" (by decide)
  · intro apart fragment listed inside
    rcases forbiddenFragments_foreign fragment listed with rfl | foreign
    · exact apart inside
    · have own : fragment.toList.all isLater = true :=
        List.all_eq_true.mpr fun c part => h.isLater_of_mem (inside.subset part)
      rw [foreign] at own
      cases own

theorem isReserved_iff : isReserved s = true ↔ s.toLower ∈ reservedNames := by
  have lowered : s.toLower.toList = s.toList.map Char.toLower := String.toList_map
  rw [isReserved, ← lowered, String.ofList_toList, List.contains_iff_mem]

theorem isReserved_eq_false_iff : isReserved s = false ↔ s.toLower ∉ reservedNames := by
  rw [← isReserved_iff, Bool.not_eq_true]

theorem rejection?_eq_none_iff : rejection? s = none ↔ IsIdentifier s := by
  rw [← isValid_iff, isValid_iff_isClean_and_isShaped, isReserved_eq_false_iff]
  constructor
  · rintro ⟨clean, shaped, free⟩
    obtain ⟨spelled, short⟩ := isShaped_iff.mp shaped
    exact ⟨spelled, short, shaped.isClean_iff.mp clean, free⟩
  · rintro ⟨spelled, short, apart, free⟩
    have shaped := isShaped_iff.mpr ⟨spelled, short⟩
    exact ⟨shaped.isClean_iff.mpr apart, shaped, free⟩

/-! ## The first of a list -/

/-- Whether an entry is the first one of a list that has a property. -/
def IsEarliest {α : Type} (p : α → Prop) (xs : List α) (x : α) : Prop :=
  p x ∧ ∃ before after, xs = before ++ x :: after ∧ ∀ y ∈ before, ¬ p y

theorem isEarliest_iff {α : Type} {p : α → Prop} {holds : α → Bool} {xs : List α} {x : α}
    (decides : ∀ y, holds y = true ↔ p y) : IsEarliest p xs x ↔ xs.find? holds = some x := by
  simp only [IsEarliest, List.find?_eq_some_iff_append, ← decides, Bool.not_eq_true,
    Bool.not_eq_true']

/-! ## Flaws -/

/-- What can be wrong with a text. -/
inductive Flaw where
  | fragment
  | empty
  | long
  | first
  | later
  | reserved

/-- All flaws, in the order that decides what a text is rejected for. -/
def Flaw.inOrder : List Flaw := [.fragment, .empty, .long, .first, .later, .reserved]

/-- Whether a text has a flaw, and the rejection that tells of it.  Of several forbidden fragments the
first one in their list is told, of several later characters the first one in the text. -/
inductive Shows (s : String) : Flaw → Rejection → Prop where
  | fragment {part : String} :
      IsEarliest (fun part => part.toList <:+: s.toList) forbiddenFragments part →
      Shows s .fragment (.fragment part)
  | empty : s.toList = [] → Shows s .empty .empty
  | long : 64 < s.utf8ByteSize → Shows s .long (.tooLong s.utf8ByteSize)
  | first {c : Char} {later : List Char} :
      s.toList = c :: later → ¬ IsLetter c → Shows s .first (.character c)
  | later {first c : Char} {later : List Char} :
      s.toList = first :: later → IsEarliest (fun c => ¬ IsWordCharacter c) later c →
      Shows s .later (.character c)
  | reserved : s.toLower ∈ reservedNames → Shows s .reserved .reserved

/-- Looks for one flaw, whatever else may be wrong with the text. -/
def Flaw.rejection? (s : String) : Flaw → Option Rejection
  | fragment => fragmentRejection? s
  | empty => if s.toList = [] then some .empty else none
  | long => if maxLength < s.utf8ByteSize then some (.tooLong s.utf8ByteSize) else none
  | first => (s.toList.head?.filter (!isFirst ·)).map .character
  | later => (s.toList.tail.find? (!isLater ·)).map .character
  | reserved => if isReserved s then some .reserved else none

theorem rejection?_eq_findSome? : rejection? s = Flaw.inOrder.findSome? (Flaw.rejection? s) := by
  simp only [rejection?, characterRejection?, Flaw.inOrder, List.findSome?, Flaw.rejection?]
  cases fragmentRejection? s with
  | some r => rfl
  | none =>
      cases s.toList with
      | nil => rfl
      | cons first later =>
          by_cases long : maxLength < s.utf8ByteSize
          · simp [long]
          · cases letter : isFirst first with
            | false => simp [long, letter, Option.filter_some]
            | true =>
                cases other : later.find? (!isLater ·) <;> cases isReserved s <;>
                  simp [long, letter, other, Option.filter_some]

theorem occurs_iff (part : String) :
    occursIn part.toList s.toList = true ↔ part.toList <:+: s.toList := occursIn_iff

theorem isForeign_iff (c : Char) : (!isLater c) = true ↔ ¬ IsWordCharacter c := by
  rw [← isLater_iff, Bool.not_eq_true', Bool.not_eq_true]

theorem Shows.found {flaw : Flaw} {r : Rejection} (shown : Shows s flaw r) :
    flaw.rejection? s = some r := by
  cases shown with
  | fragment earliest =>
      have found := (isEarliest_iff occurs_iff).mp earliest
      exact Option.map_eq_some_iff.mpr ⟨_, found, rfl⟩
  | empty nothing => exact if_pos nothing
  | long long => exact if_pos long
  | first spelled other =>
      rw [← isFirst_iff, Bool.not_eq_true] at other
      simp [Flaw.rejection?, spelled, other]
  | later spelled earliest =>
      have found := (isEarliest_iff isForeign_iff).mp earliest
      rw [Flaw.rejection?, spelled, List.tail_cons, found, Option.map_some]
  | reserved taken => exact if_pos (isReserved_iff.mpr taken)

theorem shows_of_found {flaw : Flaw} {r : Rejection} (found : flaw.rejection? s = some r) :
    Shows s flaw r := by
  cases flaw with
  | fragment =>
      obtain ⟨part, search, rfl⟩ := Option.map_eq_some_iff.mp found
      exact .fragment ((isEarliest_iff occurs_iff).mpr search)
  | empty =>
      obtain ⟨nothing, found⟩ := Option.ite_none_right_eq_some.mp found
      cases found
      exact .empty nothing
  | long =>
      obtain ⟨long, found⟩ := Option.ite_none_right_eq_some.mp found
      cases found
      exact .long long
  | first =>
      obtain ⟨c, search, rfl⟩ := Option.map_eq_some_iff.mp found
      obtain ⟨head, other⟩ := Option.filter_eq_some_iff.mp search
      obtain ⟨later, spelled⟩ := List.head?_eq_some_iff.mp head
      rw [Bool.not_eq_true', ← Bool.not_eq_true, isFirst_iff] at other
      exact .first spelled other
  | later =>
      obtain ⟨c, search, rfl⟩ := Option.map_eq_some_iff.mp found
      cases spelled : s.toList with
      | nil =>
          rw [spelled] at search
          cases search
      | cons first later =>
          rw [spelled] at search
          exact .later spelled ((isEarliest_iff isForeign_iff).mpr search)
  | reserved =>
      obtain ⟨taken, found⟩ := Option.ite_none_right_eq_some.mp found
      cases found
      exact .reserved (isReserved_iff.mp taken)

theorem shows_iff {flaw : Flaw} {r : Rejection} : Shows s flaw r ↔ flaw.rejection? s = some r :=
  ⟨Shows.found, shows_of_found⟩

theorem not_shows_iff {flaw : Flaw} : (¬ ∃ r, Shows s flaw r) ↔ flaw.rejection? s = none := by
  simp only [shows_iff, not_exists, Option.eq_none_iff_forall_ne_some, ne_eq]

/-- A text is accepted exactly if it is an identifier; otherwise the rejection names its first flaw. -/
theorem rejection_by_first_flaw (s : String) :
    (rejection? s = none ↔ IsIdentifier s) ∧
      ∀ r, rejection? s = some r ↔
        ∃ flaw, IsEarliest (fun flaw => ∃ r, Shows s flaw r) Flaw.inOrder flaw ∧ Shows s flaw r := by
  refine ⟨rejection?_eq_none_iff, fun r => ?_⟩
  rw [rejection?_eq_findSome?, List.findSome?_eq_some_iff]
  constructor
  · rintro ⟨before, flaw, after, order, found, clear⟩
    have shown := shows_iff.mpr found
    exact ⟨flaw, ⟨⟨r, shown⟩, before, after, order, fun earlier listed =>
      not_shows_iff.mpr (clear earlier listed)⟩, shown⟩
  · rintro ⟨flaw, ⟨-, before, after, order, clear⟩, shown⟩
    exact ⟨before, flaw, after, order, shows_iff.mp shown, fun earlier listed =>
      not_shows_iff.mp (clear earlier listed)⟩

example : rejection? "9__lives" = some (.fragment "__") := by decide

example : rejection? (String.ofList (List.replicate 33 'é')) = some (.tooLong 66) := by decide

end Grimoire.Identifier
