import Grimoire.Json.Kind
import Grimoire.Proofs.Json.Legible

/-! # What readers find

Two facts are wanted of a reader.  `Spells read j x` says that a legible value is read as something; this
is what a writer has to make sure of, and there is a rule for each way of putting readers together.
`Yields read P` says what is known of anything that a reader answers, whatever it was given; for this
there are the same rules the other way round.  Between them stand the readings of members: `Finds` says
what a reading of some members found.
-/

namespace Grimoire

variable {β γ δ : Type}

/-! ## Parts of records -/

namespace Placed

def Finds (p : Placed γ) (x : γ) : Prop := p = found x

theorem Finds.map {p : Placed γ} {x : γ} (h : p.Finds x) (f : γ → δ) : (f <$> p).Finds (f x) := by
  rw [Finds] at h
  subst h
  rfl

theorem Finds.seq {p : Placed (γ → δ)} {f : γ → δ} {q : Placed γ} {x : γ} (hp : p.Finds f)
    (hq : q.Finds x) : (p <*> q).Finds (f x) := by
  rw [Finds] at hp hq
  subst hp hq
  rfl

theorem Finds.seqLeft {p : Placed γ} {q : Placed δ} {x : γ} {y : δ} (hp : p.Finds x)
    (hq : q.Finds y) : (p <* q).Finds x := by
  rw [Finds] at hp hq
  subst hp hq
  rfl

theorem finds_found {x y : γ} : (found x).Finds y ↔ x = y := by
  rw [Finds, found.injEq]

theorem not_finds_fault {place : Nat} {cause : DecodeFault} {x : γ} :
    ¬ (fault place cause).Finds x := nofun

theorem finds_seq {p : Placed (γ → δ)} {q : Placed γ} {y : δ} :
    (p <*> q).Finds y ↔ ∃ f, p.Finds f ∧ ∃ x, q.Finds x ∧ f x = y := by
  constructor
  · intro h
    change both p q = found y at h
    cases p with
    | found f =>
        cases q with
        | found x => exact ⟨f, rfl, x, rfl, found.inj h⟩
        | fault => cases h
    | fault =>
        cases q with
        | found x => cases h
        | fault =>
            unfold both at h
            dsimp only at h
            split at h <;> cases h
  · rintro ⟨f, hf, x, hx, rfl⟩
    exact hf.seq hx

theorem finds_map {f : γ → δ} {p : Placed γ} {y : δ} :
    (f <$> p).Finds y ↔ ∃ x, p.Finds x ∧ f x = y := by
  change (found f <*> p).Finds y ↔ _
  simp [finds_seq, finds_found]

theorem finds_of_seqLeft {p : Placed γ} {q : Placed δ} {x : γ} (h : (p <* q).Finds x) :
    p.Finds x := by
  change (Function.const δ <$> p <*> q).Finds x at h
  obtain ⟨_, first, _, _, rfl⟩ := finds_seq.mp h
  obtain ⟨x, found, rfl⟩ := finds_map.mp first
  exact found

theorem run_eq_ok_iff {p : Placed γ} {x : γ} : p.run = .ok x ↔ p.Finds x := by
  cases p <;> simp [run, Finds]

/-- Whether everything that a reading can find is of some kind. -/
def Yields (p : Placed γ) (P : γ → Prop) : Prop := ∀ x, p.Finds x → P x

theorem Yields.seq {p : Placed (γ → δ)} {q : Placed γ} {F : (γ → δ) → Prop} {P : γ → Prop}
    {Q : δ → Prop} (hp : p.Yields F) (hq : q.Yields P) (h : ∀ f, F f → ∀ x, P x → Q (f x)) :
    (p <*> q).Yields Q := by
  intro y found
  obtain ⟨f, first, x, second, rfl⟩ := finds_seq.mp found
  exact h f (hp f first) x (hq x second)

theorem Yields.map {p : Placed γ} {P : γ → Prop} {Q : δ → Prop} (h : p.Yields P) {f : γ → δ}
    (of : ∀ x, P x → Q (f x)) : (f <$> p).Yields Q := by
  intro y found
  obtain ⟨x, first, rfl⟩ := finds_map.mp found
  exact of x (h x first)

end Placed

/-! ## Tables -/

namespace NameMap

theorem ofPairs_toList (t : NameMap γ) : ofPairs t.toList = t := by
  refine Std.ExtTreeMap.ext_getElem? fun name => ?_
  cases held : t[name]? with
  | some x =>
      have listed := Std.ExtTreeMap.mem_toList_iff_getElem?_eq_some.mpr held
      exact Std.ExtTreeMap.getElem?_ofList_of_mem Std.ReflCmp.compare_self
        Std.ExtTreeMap.distinct_keys_toList listed
  | none =>
      cases found : (ofPairs t.toList)[name]? with
      | none => rfl
      | some x =>
          have member : name ∈ ofPairs t.toList :=
            Std.ExtTreeMap.mem_iff_isSome_getElem?.mpr (by rw [found]; rfl)
          rw [ofPairs, Std.ExtTreeMap.mem_ofList, List.contains_iff_mem] at member
          obtain ⟨⟨_, x⟩, listed, rfl⟩ := List.mem_map.mp member
          rw [Std.ExtTreeMap.mem_toList_iff_getElem?_eq_some.mp listed] at held
          cases held

theorem mem_of_mem_ofPairs {pairs : List (String × γ)} {entry : String × γ}
    (h : entry ∈ (ofPairs pairs).toList) : entry ∈ pairs := by
  have grown : ∀ (pairs : List (String × γ)) (t : NameMap γ),
      (pairs.foldl (fun t pair => t.insert pair.1 pair.2) t)[entry.1]? = some entry.2 →
      t[entry.1]? = some entry.2 ∨ entry ∈ pairs := by
    intro pairs
    induction pairs with
    | nil => exact fun t found => .inl found
    | cons pair pairs ih =>
        intro t found
        obtain before | later := ih _ found
        · rw [Std.ExtTreeMap.getElem?_insert] at before
          split at before
          next same =>
            have shape : entry = pair := Prod.ext (Std.LawfulEqCmp.eq_of_compare same).symm
              (Option.some.inj before).symm
            exact .inr (shape ▸ List.mem_cons_self)
          · exact .inl before
        · exact .inr (List.mem_cons_of_mem pair later)
  rw [Std.ExtTreeMap.mem_toList_iff_getElem?_eq_some, ofPairs, Std.ExtTreeMap.ofList_eq_foldl] at h
  obtain none | listed := grown pairs ∅ h
  · simp at none
  · exact listed

end NameMap

namespace Record

variable {members : List (String × β)} {names : List String} {name : String} {value : β}
  {read : β → Except DecodeFault γ} {absent : Placed γ} {x : γ}

/-- Whether just one member has one of some names, and this value. -/
def Once (names : List String) (members : List (String × β)) (value : β) : Prop :=
  ∃ place, occurrences names members = [(place, value)]

theorem Once.map (h : Once names members value) (f : β → γ) :
    Once names (members.map fun (name, value) => (name, f value)) (f value) := by
  obtain ⟨place, only⟩ := h
  refine ⟨place, ?_⟩
  have same : occurrences names (members.map fun (name, value) => (name, f value))
      = (occurrences names members).map fun (place, value) => (place, f value) := by
    unfold occurrences
    rw [List.zipIdx_map, List.filterMap_map, List.map_filterMap]
    refine List.filterMap_congr fun entry _ => ?_
    obtain ⟨⟨name, value⟩, place⟩ := entry
    cases listed : names.contains name <;> simp only [Function.comp, Prod.map, listed] <;> rfl
  rw [same, only]
  rfl

theorem member_finds (once : Once names members value) (h : read value = .ok x) :
    (member members names read absent).Finds x := by
  obtain ⟨place, only⟩ := once
  simp only [member, only, h]
  rfl

theorem required_finds (once : Once [name] members value) (h : read value = .ok x) :
    (required members name read).Finds x := member_finds once h

theorem optional_finds {absent : γ} (once : Once [name] members value) (h : read value = .ok x) :
    (optional members name read absent).Finds x := member_finds once h

theorem tag?_eq {read? : β → Option γ} (once : Once [name] members value) :
    tag? name read? members = read? value := by
  obtain ⟨place, only⟩ := once
  simp only [tag?, only]

theorem mem_of_mem_occurrences {place : Nat} (h : (place, value) ∈ occurrences names members) :
    ∃ name, (name, value) ∈ members := by
  unfold occurrences at h
  obtain ⟨⟨⟨name, value'⟩, place'⟩, listed, shape⟩ := List.mem_filterMap.mp h
  dsimp only at shape
  split at shape
  · cases shape
    exact ⟨name, List.fst_mem_of_mem_zipIdx listed⟩
  · contradiction

theorem finds_member (h : (member members names read absent).Finds x) :
    absent.Finds x ∨ ∃ m ∈ members, read m.2 = .ok x := by
  unfold member at h
  split at h
  · exact .inl h
  next place value others found =>
    have first : (place, value) ∈ occurrences names members := by
      rw [found]
      exact List.mem_cons_self
    obtain ⟨name, listed⟩ := mem_of_mem_occurrences first
    split at h
    · cases h
    next y reads =>
      split at h
      · cases h
        exact .inr ⟨_, listed, reads⟩
      · cases h

theorem member_yields {P : γ → Prop} (h : ∀ m ∈ members, ∀ x, read m.2 = .ok x → P x)
    (missing : absent.Yields P) : (member members names read absent).Yields P := by
  intro x found
  obtain absent | ⟨m, listed, reads⟩ := finds_member found
  · exact missing x absent
  · exact h m listed x reads

theorem required_yields {P : γ → Prop} (h : ∀ m ∈ members, ∀ x, read m.2 = .ok x → P x) :
    (required members name read).Yields P :=
  member_yields h fun _ missing => absurd missing Placed.not_finds_fault

theorem optional_yields {absent : γ} {P : γ → Prop}
    (h : ∀ m ∈ members, ∀ x, read m.2 = .ok x → P x) (missing : P absent) :
    (optional members name read absent).Yields P :=
  member_yields h fun _ found => Placed.finds_found.mp found ▸ missing

theorem refuse_finds {bad : β → Bool} {xs : List β} (h : ∀ x ∈ xs, bad x = false) :
    (refuse bad xs).Finds () := by
  have none : xs.findIdx? bad = none := List.findIdx?_eq_none_iff.mpr h
  rw [refuse, none]
  rfl

end Record

namespace Json

open Record

variable {read : Json → Except DecodeFault γ} {j : Json} {x : γ}

/-! ## Spelling -/

/-- Whether a legible value is read as something. -/
structure Spells (read : Json → Except DecodeFault γ) (j : Json) (x : γ) : Prop where
  legible : j.Legible
  reads : read j = .ok x

theorem isBroken_eq_false {m : String × Json} (h : m.2.Legible) : isBroken m = false := by
  obtain ⟨name, j⟩ := m
  unfold isBroken
  split
  next again =>
    cases again
    cases h
  next again =>
    cases again
    exact h.isCut

theorem mapM_eq_ok {ε : Type} {read : β → Except ε γ} {write : γ → β} : ∀ {xs : List γ},
    (∀ x ∈ xs, read (write x) = .ok x) → (xs.map write).mapM read = .ok xs
  | [], _ => rfl
  | x :: xs, h => by
      rw [List.map_cons, List.mapM_cons, h x List.mem_cons_self,
        mapM_eq_ok fun y listed => h y (List.mem_cons_of_mem x listed)]
      rfl

namespace Spells

theorem text (s : String) : Spells asText (.text s) s := ⟨.text s, rfl⟩

theorem bool (b : Bool) : Spells asBool (.bool b) b := ⟨.bool b, rfl⟩

theorem nat {bound n : Nat} (le : n ≤ bound) (fits : bound < twoTo 64) :
    Spells (asNat bound) (.ofNat n) n := by
  refine ⟨.int (Nat.lt_of_le_of_lt le fits), ?_⟩
  rw [ofNat, asNat, if_pos ⟨Int.natCast_nonneg n, Int.ofNat_le.mpr le⟩, Int.toNat_natCast]

theorem float {x : Float} (back : ReadsBack x) : Spells asFloat (.ofFloat x) x := by
  rw [ofFloat, if_pos back.isFinite]
  exact ⟨.float back, rfl⟩

theorem whole (h : Spells read j x) : Spells (asWhole read) j x :=
  ⟨h.legible, by rw [asWhole_of_isFlawless read h.legible.isFlawless, h.reads]⟩

theorem present (h : Spells read j x) (other : j ≠ .null) : Spells (asOption read) j (some x) := by
  refine ⟨h.legible, ?_⟩
  unfold asOption
  split
  · contradiction
  · rw [h.reads]
    rfl

theorem absent : Spells (asOption read) .null none := ⟨.null, rfl⟩

/-- What may be absent is spelled as `null` or as what is there. -/
theorem option {write : γ → Json} {o : Option γ} (h : ∀ x ∈ o, Spells read (write x) x)
    (other : ∀ x ∈ o, write x ≠ .null) : Spells (asOption read) (.ofOption write o) o := by
  cases o with
  | none => exact absent
  | some x => exact (h x rfl).present (other x rfl)

theorem list {write : γ → Json} {xs : List γ} (h : ∀ x ∈ xs, Spells read (write x) x) :
    Spells (asList read) (.ofList write xs) xs := by
  refine ⟨.list fun j listed => ?_, mapM_eq_ok fun x listed => (h x listed).reads⟩
  obtain ⟨x, member, rfl⟩ := List.mem_map.mp listed
  exact (h x member).legible

theorem table {write : γ → Json} {t : NameMap γ}
    (h : ∀ entry ∈ t.toList, Spells read (write entry.2) entry.2) :
    Spells (asTable read) (ofTable write t) t := by
  have entries : (t.toList.map fun (name, x) => (name, write x)).mapM (asEntry read)
      = .ok t.toList :=
    mapM_eq_ok fun entry listed => by
      rw [asEntry, (h entry listed).reads]
      rfl
  refine ⟨.record fun m listed => ?_, ?_⟩
  · obtain ⟨entry, member, rfl⟩ := List.mem_map.mp listed
    exact (h entry member).legible
  · rw [ofTable, asTable, entries]
    exact congrArg Except.ok (NameMap.ofPairs_toList t)

variable {members : List (String × Json)}

theorem ofMembers {f : List (String × Json) → Placed γ} (legible : ∀ m ∈ members, m.2.Legible)
    (h : (f members).Finds x) : Spells (asMembers f) (.record members) x :=
  ⟨.record legible, Placed.run_eq_ok_iff.mpr (h.seqLeft (refuse_finds fun m listed =>
    isBroken_eq_false (legible m listed)))⟩

theorem ofRecord {columns : Columns} {f : List (String × Json) → Placed γ}
    (legible : ∀ m ∈ members, m.2.Legible) (h : (f members).Finds x) :
    Spells (asRecord columns f) (.record members) x :=
  ⟨.record legible, (Spells.ofMembers legible h).reads⟩

end Spells

end Json

namespace Kind

open Json Record

variable {naming : Naming} {kinds : List (Kind β γ)} {tag : String}
  {members : List (String × β)} {value : β} {kind : Kind β γ} {x : γ}

theorem ofMembers_eq_ok (json : β → Json) (once : Once [tag] members value)
    (found : find? naming kinds (json value) = some kind) (h : (kind.read members).Finds x) :
    ofMembers naming kinds tag json members = .ok x := by
  rw [ofMembers, tag?_eq once, found]
  exact Placed.run_eq_ok_iff.mpr h

end Kind

namespace Json

open Record

variable {naming : Naming} {kinds : List (Kind Json γ)} {tag : String} {members : List (String × Json)}
  {value : Json} {kind : Kind Json γ} {x : γ}

theorem Spells.ofKind (legible : ∀ m ∈ members, m.2.Legible) (once : Once [tag] members value)
    (found : Kind.find? naming kinds value = some kind) (h : (kind.read members).Finds x) :
    Spells (Kind.ofJson naming kinds tag) (.record members) x :=
  Spells.whole ⟨.record legible, Kind.ofMembers_eq_ok id once found h⟩

/-! ## What readers answer -/

variable {ε : Type}

theorem ok_of_bind {r : Except ε β} {k : β → Except ε γ} {z : γ} (h : r >>= k = .ok z) :
    ∃ y, r = .ok y ∧ k y = .ok z := by
  cases r with
  | error cause => cases h
  | ok y => exact ⟨y, rfl, h⟩

theorem ok_of_map {r : Except ε β} {f : β → γ} {z : γ} (h : r.map f = .ok z) :
    ∃ y, r = .ok y ∧ f y = z := by
  cases r with
  | error cause => cases h
  | ok y => exact ⟨y, rfl, Except.ok.inj h⟩

/-- Whether everything that a reader can answer is of some kind. -/
def Yields (read : Json → Except DecodeFault γ) (P : γ → Prop) : Prop :=
  ∀ j x, read j = .ok x → P x

namespace Yields

variable {read : Json → Except DecodeFault γ} {P : γ → Prop}

theorem nat (bound : Nat) : Yields (asNat bound) (· ≤ bound) := by
  intro j n h
  unfold asNat at h
  split at h
  · split at h
    next within =>
      cases h
      omega
    · cases h
  · cases h

theorem whole (h : Yields read P) : Yields (asWhole read) P := by
  intro j x reads
  unfold asWhole at reads
  split at reads
  · exact h j x reads
  · cases reads

theorem option (h : Yields read P) : Yields (asOption read) fun o => ∀ x ∈ o, P x := by
  intro j o reads x held
  unfold asOption at reads
  split at reads
  · cases reads
    cases held
  · obtain ⟨y, found, rfl⟩ := ok_of_map reads
    cases held
    exact h j _ found

theorem mapM {β : Type} {read : β → Except DecodeFault γ} (h : ∀ j x, read j = .ok x → P x) :
    ∀ {items : List β} {xs : List γ}, items.mapM read = .ok xs → ∀ x ∈ xs, P x
  | [], _, reads, x, listed => by
      cases reads
      cases listed
  | j :: items, xs, reads, x, listed => by
      rw [List.mapM_cons] at reads
      obtain ⟨y, first, reads⟩ := ok_of_bind reads
      obtain ⟨ys, others, reads⟩ := ok_of_bind reads
      cases reads
      obtain rfl | later := List.mem_cons.mp listed
      · exact h j x first
      · exact mapM h others x later

theorem list (h : Yields read P) : Yields (asList read) fun xs => ∀ x ∈ xs, P x := by
  intro j xs reads
  unfold asList at reads
  split at reads
  · exact mapM h reads
  · cases reads

theorem table (h : Yields read P) :
    Yields (asTable read) fun t => ∀ entry ∈ t.toList, P entry.2 := by
  intro j t reads entry listed
  unfold asTable at reads
  split at reads
  next members =>
    obtain ⟨pairs, found, rfl⟩ := ok_of_map reads
    refine mapM (P := fun entry => P entry.2) (fun m pair reads => ?_) found entry
      (NameMap.mem_of_mem_ofPairs listed)
    obtain ⟨x, value, rfl⟩ := ok_of_map reads
    exact h m.2 x value
  · cases reads

theorem ofMembers {f : List (String × Json) → Placed γ} (h : ∀ members, (f members).Yields P) :
    Yields (asMembers f) P := by
  intro j x reads
  unfold asMembers at reads
  split at reads
  · exact h _ x (Placed.finds_of_seqLeft (Placed.run_eq_ok_iff.mp reads))
  · cases reads

theorem ofRecord {columns : Columns} {f : List (String × Json) → Placed γ}
    (h : ∀ members, (f members).Yields P) : Yields (asRecord columns f) P := by
  intro j x reads
  unfold asRecord at reads
  split at reads
  · exact h _ x (Placed.finds_of_seqLeft (Placed.run_eq_ok_iff.mp reads))
  · exact Yields.ofMembers h j x reads

end Yields

end Json

end Grimoire
