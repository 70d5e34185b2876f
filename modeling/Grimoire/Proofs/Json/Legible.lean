import Grimoire.Proofs.Json.Token
import Grimoire.Proofs.Number.Order

/-! # Reading what was written

A value is legible when nothing in it is lost on the way through its text: it has no flaw, its whole
numbers are natural numbers of 64 bits, and each of its doubles is read back from its own text.
`Legible.read_compact` is the result: a legible value that nests no deeper than a reader goes is read
back from its text, which ends with it.

The induction is on the value.  `Legible.readValue` says what a step needs, with any text behind the
value that a value may be followed by; a list and a record are both read by `readItems`, so one lemma
covers their loops.
-/

namespace Grimoire

namespace Json

/-- Whether the text of a double is read to its last character, as that double. -/
def ReadsBack (x : Float) : Prop := readScalar (compactChars (float x)) = some (float x, [])

inductive Legible : Json → Prop
  | null : Legible null
  | bool (b : Bool) : Legible (bool b)
  | int {n : Nat} (fits : n < twoTo 64) : Legible (int n)
  | float {x : Float} (back : ReadsBack x) : Legible (float x)
  | text (s : String) : Legible (text s)
  | list {items : List Json} (each : ∀ j ∈ items, Legible j) : Legible (list items)
  | record {members : List (String × Json)} (each : ∀ m ∈ members, Legible m.2) :
      Legible (record members)

attribute [simp] Legible.null Legible.bool Legible.text

@[simp] theorem legible_list {items : List Json} : (list items).Legible ↔ ∀ j ∈ items, j.Legible :=
  ⟨fun | .list each => each, .list⟩

@[simp] theorem legible_record {members : List (String × Json)} :
    (record members).Legible ↔ ∀ m ∈ members, m.2.Legible :=
  ⟨fun | .record each => each, .record⟩

/-! ## Nesting -/

mutual

def depth : Json → Nat
  | list items => depthItems items + 1
  | record members => depthMembers members + 1
  | null | bool _ | int _ | float _ | text _ | flaw _ => 0

def depthItems : List Json → Nat
  | [] => 0
  | x :: xs => max x.depth (depthItems xs)

def depthMembers : List (String × Json) → Nat
  | [] => 0
  | (_, x) :: xs => max x.depth (depthMembers xs)

end

theorem depth_le_depthItems {j : Json} : ∀ {items : List Json}, j ∈ items → j.depth ≤ depthItems items
  | _ :: items, listed => by
      rw [depthItems]
      obtain rfl | later := List.mem_cons.mp listed
      · exact Nat.le_max_left ..
      · exact Nat.le_trans (depth_le_depthItems later) (Nat.le_max_right ..)

theorem depth_le_depthMembers {m : String × Json} : ∀ {members : List (String × Json)},
    m ∈ members → m.2.depth ≤ depthMembers members
  | (_, _) :: members, listed => by
      rw [depthMembers]
      obtain rfl | later := List.mem_cons.mp listed
      · exact Nat.le_max_left ..
      · exact Nat.le_trans (depth_le_depthMembers later) (Nat.le_max_right ..)

/-! ## Flaws -/

theorem hasFlawItems_eq_false {kinds : List Flaw} : ∀ {items : List Json},
    (∀ j ∈ items, j.hasFlaw kinds = false) → hasFlawItems kinds items = false
  | [], _ => rfl
  | x :: xs, h => by
      rw [hasFlawItems, h x List.mem_cons_self,
        hasFlawItems_eq_false fun j listed => h j (List.mem_cons_of_mem x listed)]
      rfl

theorem hasFlawMembers_eq_false {kinds : List Flaw} : ∀ {members : List (String × Json)},
    (∀ m ∈ members, m.2.hasFlaw kinds = false) → hasFlawMembers kinds members = false
  | [], _ => rfl
  | (name, x) :: xs, h => by
      rw [hasFlawMembers, h (name, x) List.mem_cons_self,
        hasFlawMembers_eq_false fun m listed => h m (List.mem_cons_of_mem _ listed)]
      rfl

namespace Legible

variable {j : Json}

theorem hasFlaw (h : j.Legible) (kinds : List Flaw) : j.hasFlaw kinds = false := by
  induction h with
  | list _ ih => exact hasFlawItems_eq_false ih
  | record _ ih => exact hasFlawMembers_eq_false ih
  | _ => rfl

theorem isFlawless (h : j.Legible) : j.isFlawless = true := by
  simp [Json.isFlawless, h.hasFlaw]

theorem isCut (h : j.Legible) : j.isCut = false := h.hasFlaw _

end Legible

/-! ## Leaves -/

theorem readScalar_of_number {c : Char} (h : c = '-' ∨ c.isDigit = true) (cs : List Char) :
    readScalar (c :: cs) = (readNumeral (c :: cs)).map fun (n, rest) => (n.value, rest) := by
  unfold readScalar
  split
  iterate 4
    next again =>
      obtain ⟨rfl, _⟩ := List.cons.inj again
      exact absurd h (by decide)
  · rfl

theorem readValue_of_leaf {c : Char} (list : c ≠ '[') (record : c ≠ '\x7b') (d : Nat)
    (cs : List Char) : readValue d (c :: cs) = readLeaf (c :: cs) := by
  unfold readValue
  split
  next again => exact absurd (List.cons.inj again).1 list
  next again => exact absurd (List.cons.inj again).1 record
  next again => exact absurd (List.cons.inj again).1 list
  next again => exact absurd (List.cons.inj again).1 record
  · rfl

theorem readValue_of_readScalar {c : Char} {cs rest : List Char} {j : Json}
    (h : readScalar (c :: cs) = some (j, rest)) (list : c ≠ '[') (record : c ≠ '\x7b') (d : Nat) :
    readValue d (c :: cs) = (j, some rest) := by
  rw [readValue_of_leaf list record]
  simp only [readLeaf, h]

theorem readValue_of_readNumeral {cs : List Char} {n : Numeral}
    (h : readNumeral cs = some (n, [])) (d : Nat) {rest : List Char} (ended : Ended rest) :
    readValue d (cs ++ rest) = (n.value, some rest) := by
  obtain ⟨c, tail, rfl, head⟩ := head_of_readNumeral h
  have reads : readNumeral (c :: (tail ++ rest)) = some (n, rest) := isLocal_readNumeral h ended
  rw [List.cons_append]
  refine readValue_of_readScalar ?_ (by rintro rfl; exact absurd head (by decide))
    (by rintro rfl; exact absurd head (by decide)) d
  rw [readScalar_of_number head, reads]
  rfl

theorem ReadsBack.readNumeral {x : Float} (h : ReadsBack x) :
    ∃ n, Json.readNumeral (compactChars (float x)) = some (n, []) ∧ n.value = float x := by
  unfold ReadsBack readScalar at h
  split at h
  iterate 3 cases h
  next text =>
    obtain ⟨⟨s, rest⟩, -, shape⟩ := Option.map_eq_some_iff.mp h
    cases s <;> cases shape
  next =>
    obtain ⟨⟨n, rest⟩, found, shape⟩ := Option.map_eq_some_iff.mp h
    obtain ⟨value, rfl⟩ := Prod.mk.inj shape
    exact ⟨n, found, value⟩

theorem ReadsBack.isFinite {x : Float} (h : ReadsBack x) : x.isFinite = true := by
  cases fraction : Binary.ofFloat? x with
  | some d => exact Double.isFinite_of_ofFloat? fraction
  | none =>
      have word : compactChars (float x) ∈ ["NaN".toList, "-inf".toList, "inf".toList] := by
        unfold compactChars Layout.write
        rw [fraction]
        dsimp only
        split
        · decide
        · split <;> decide
      have none : ∀ cs ∈ ["NaN".toList, "-inf".toList, "inf".toList],
          (Json.readNumeral cs).isNone = true := by decide
      obtain ⟨n, found, -⟩ := h.readNumeral
      exact absurd (none _ word) (by simp [found])

/-! ## Sequences -/

theorem skipBlank_of_not_isBlank {c : Char} (h : isBlank c = false) (cs : List Char) :
    skipBlank (c :: cs) = c :: cs := by
  simp [skipBlank, h]

/-- Whether a text starts with a character that is neither blank nor some other one. -/
def Opens (other : Char) (cs : List Char) : Prop :=
  ∃ c tail, cs = c :: tail ∧ isBlank c = false ∧ c ≠ other

theorem Opens.skipBlank {other : Char} {cs : List Char} (h : Opens other cs) (rest : List Char) :
    skipBlank (cs ++ rest) = cs ++ rest := by
  obtain ⟨c, tail, rfl, blank, _⟩ := h
  exact skipBlank_of_not_isBlank blank _

variable {β : Type} {close : Char} {last : β} {item : List Char → β × Option (List Char)}
  {write : β → List Char}

/-- What it takes for items that were written to be read back one by one. -/
structure Itemized (close : Char) (item : List Char → β × Option (List Char))
    (write : β → List Char) (x : β) : Prop where
  opens : Opens close (write x)
  reads : ∀ rest, Ended rest → item (write x ++ rest) = (x, some rest)

theorem isBlank_close (closes : close = ']' ∨ close = '\x7d') : isBlank close = false := by
  obtain rfl | rfl := closes <;> rfl

variable (last) in
theorem readItems_commas (closes : close = ']' ∨ close = '\x7d') (rest : List Char) :
    ∀ (xs : List β) (x : β) (fuel : Nat) (done : List β), xs.length < fuel →
      (∀ y ∈ x :: xs, Itemized close item write y) →
      readItems close last item fuel
          ([','].intercalate ((x :: xs).map write) ++ close :: rest) done
        = (done.reverse ++ x :: xs, some rest)
  | [], x, fuel + 1, done, _, each => by
      have first := each x List.mem_cons_self
      have ended : Ended (close :: rest) := .cons (.inr closes)
      have comma : close ≠ ',' := by obtain rfl | rfl := closes <;> decide
      simp [readItems, first.opens.skipBlank, first.reads _ ended,
        skipBlank_of_not_isBlank (isBlank_close closes), comma]
  | y :: ys, x, fuel + 1, done, enough, each => by
      have first := each x List.mem_cons_self
      have later := readItems_commas closes rest ys y fuel (x :: done)
        (Nat.lt_of_succ_lt_succ enough) fun z listed => each z (List.mem_cons_of_mem x listed)
      have split : [','].intercalate ((x :: y :: ys).map write) ++ close :: rest
          = write x ++ ',' :: ([','].intercalate ((y :: ys).map write) ++ close :: rest) := by
        simp [List.intercalate]
      rw [split, readItems, first.opens.skipBlank, first.reads _ (.cons (.inl rfl))]
      simpa [skipBlank_of_not_isBlank (show isBlank ',' = false from rfl)] using later

variable (write) in
theorem length_le_length_commas (xs : List β) :
    xs.length ≤ ([','].intercalate (xs.map write)).length + 1 := by
  match xs with
  | [] => exact Nat.zero_le _
  | [x] => simp
  | x :: y :: ys =>
      have := length_le_length_commas (y :: ys)
      simp only [List.intercalate, List.map_cons, List.intersperse_cons_cons, List.flatten_cons,
        List.length_append, List.length_cons, List.length_nil] at this ⊢
      omega

variable (last item write) in
theorem readSequence_commas (closes : close = ']' ∨ close = '\x7d') (rest : List Char)
    (xs : List β) (each : ∀ x ∈ xs, Itemized close item write x) :
    readSequence close last item ([','].intercalate (xs.map write) ++ close :: rest)
      = (xs, some rest) := by
  match xs with
  | [] => simp [readSequence, skipBlank_of_not_isBlank (isBlank_close closes)]
  | x :: xs =>
      obtain ⟨c, tail, shape, blank, other⟩ := (each x List.mem_cons_self).opens
      have enough := length_le_length_commas write (x :: xs)
      have reads := readItems_commas last closes rest xs x
        ([','].intercalate ((x :: xs).map write) ++ close :: rest).length []
        (by simp only [List.length_append, List.length_cons] at enough ⊢; omega) each
      have head : ∃ tail, [','].intercalate ((x :: xs).map write) ++ close :: rest = c :: tail := by
        cases xs <;> exact ⟨_, by simp [List.intercalate, shape]; rfl⟩
      obtain ⟨tail', head⟩ := head
      rw [head] at reads ⊢
      simp only [readSequence, skipBlank_of_not_isBlank blank, if_neg other]
      exact reads

/-! ## Values -/

theorem compactChars_natCast (n : Nat) : compactChars (int n) = Nat.toDigits 10 n := by
  rw [compactChars, if_neg (Int.not_lt.mpr (Int.natCast_nonneg n)), Int.natAbs_natCast]

def compactMember (m : String × Json) : List Char := quote m.1 ++ ':' :: compactChars m.2

theorem compactItems_eq : ∀ items : List Json,
    compactItems items = [','].intercalate (items.map compactChars)
  | [] => rfl
  | [x] => by simp [compactItems]
  | x :: y :: ys => by
      rw [compactItems, compactItems_eq (y :: ys)]
      · simp [List.intercalate]
      · exact List.cons_ne_nil y ys

theorem compactMembers_eq : ∀ members : List (String × Json),
    compactMembers members = [','].intercalate (members.map compactMember)
  | [] => rfl
  | [(name, x)] => by simp [compactMembers, compactMember]
  | (name, x) :: y :: ys => by
      rw [compactMembers, compactMembers_eq (y :: ys)]
      · simp [List.intercalate, compactMember]
      · exact List.cons_ne_nil y ys

theorem readMember_compactMember {value : List Char → Json × Option (List Char)}
    {m : String × Json} {rest : List Char} (fresh : Opens ']' (compactChars m.2))
    (h : value (compactChars m.2 ++ rest) = (m.2, some rest)) :
    readMember value (compactMember m ++ rest) = (m, some rest) := by
  have shape : compactMember m ++ rest
      = '"' :: (m.1.toList.flatMap escape ++ '"' :: ':' :: (compactChars m.2 ++ rest)) := by
    simp [compactMember, quote]
  rw [shape, readMember]
  simp [readText_escapes, skipBlank_of_not_isBlank (show isBlank ':' = false from rfl),
    fresh.skipBlank, h, ofMember]

namespace Legible

variable {j : Json}

theorem opens (h : j.Legible) : Opens ']' (compactChars j) := by
  have number {cs : List Char} {n : Numeral} (found : readNumeral cs = some (n, [])) :
      Opens ']' cs := by
    obtain ⟨c, tail, shape, head⟩ := head_of_readNumeral found
    refine ⟨c, tail, shape, ?_, by rintro rfl; exact absurd head (by decide)⟩
    cases blank : isBlank c with
    | false => rfl
    | true =>
        simp only [isBlank, Bool.or_eq_true, decide_eq_true_eq] at blank
        obtain ((rfl | rfl) | rfl) | rfl := blank <;> exact absurd head (by decide)
  cases h with
  | null => exact ⟨_, _, rfl, rfl, by decide⟩
  | bool b => cases b <;> exact ⟨_, _, rfl, rfl, by decide⟩
  | int fits => exact compactChars_natCast _ ▸ number (readNumeral_toDigits _)
  | float back => exact number back.readNumeral.choose_spec.1
  | text s => exact ⟨_, _, rfl, rfl, by decide⟩
  | list each => exact ⟨_, _, rfl, rfl, by decide⟩
  | record each => exact ⟨_, _, rfl, rfl, by decide⟩

/-- A legible value is read back from its text, wherever that stands. -/
theorem readValue (h : j.Legible) : ∀ (d : Nat) (rest : List Char), j.depth ≤ d → Ended rest →
    Json.readValue d (compactChars j ++ rest) = (j, some rest) := by
  induction h with
  | null => exact fun d rest _ _ => readValue_of_readScalar rfl (by decide) (by decide) d
  | bool b =>
      intro d rest _ _
      cases b <;> exact readValue_of_readScalar rfl (by decide) (by decide) d
  | @int n fits =>
      intro d rest _ ended
      rw [compactChars_natCast, ← value_toDigits fits]
      exact readValue_of_readNumeral (readNumeral_toDigits n) d ended
  | float back =>
      intro d rest _ ended
      obtain ⟨n, found, value⟩ := back.readNumeral
      have reads := readValue_of_readNumeral found d ended
      rw [value] at reads
      exact reads
  | text s =>
      intro d rest _ _
      refine readValue_of_readScalar ?_ (by decide) (by decide) d
      have reads := readText_escapes s rest
      simp [readScalar, reads]
  | @list items each ih =>
      intro d rest deep _
      rw [depth] at deep
      obtain ⟨d, rfl⟩ : ∃ d', d = d' + 1 := ⟨d - 1, by omega⟩
      have reads := readSequence_commas (Json.flaw .cut) (Json.readValue d) compactChars
        (.inl rfl) rest items
        fun x listed => ⟨(each x listed).opens, fun rest' ended => ih x listed d rest'
          (Nat.le_trans (depth_le_depthItems listed) (by omega)) ended⟩
      rw [compactChars, compactItems_eq]
      simp only [List.cons_append, List.append_assoc, List.nil_append, Json.readValue, reads]
  | @record members each ih =>
      intro d rest deep _
      rw [depth] at deep
      obtain ⟨d, rfl⟩ : ∃ d', d = d' + 1 := ⟨d - 1, by omega⟩
      have reads := readSequence_commas cutMember (readMember (Json.readValue d)) compactMember
        (.inr rfl) rest members
        fun m listed => ⟨⟨_, _, rfl, rfl, by decide⟩, fun rest' ended =>
          readMember_compactMember (each m listed).opens (ih m listed d rest'
            (Nat.le_trans (depth_le_depthMembers listed) (by omega)) ended)⟩
      rw [compactChars, compactMembers_eq]
      simp only [List.cons_append, List.append_assoc, List.nil_append, Json.readValue, reads]

/-- A legible value that nests no deeper than the reader goes is read back from its text. -/
theorem read_compact (h : j.Legible) (deep : j.depth ≤ maxNesting) : read j.compact = (j, true) := by
  have reads := h.readValue maxNesting [] deep .nil
  have fresh := h.opens.skipBlank []
  rw [List.append_nil] at reads fresh
  simp only [read, compact, String.toList_ofList, fresh, reads]
  rfl

end Legible

end Json

end Grimoire
