import Grimoire.Expression.Path
import Grimoire.Proofs.Settings.Identifier

/-! # The language of paths

`Path.Reads` is the language of the texts that are paths, with what each of them reads.  The segments
of a path are identifiers, so no forbidden fragment can lie across a dot; the look at the whole text that
comes before the segments refuses nothing that they would not refuse, and a text is accepted exactly if
its segments are and name something together.
-/

namespace Grimoire

/-! ## Segments -/

namespace Path

theorem splitDots_eq_splitOn : ∀ cs : List Char, splitDots cs = cs.splitOn '.'
  | [] => rfl
  | c :: cs => by
      rw [splitDots, splitDots_eq_splitOn cs, List.splitOn_cons_eq_if_modifyHead]
      by_cases dot : c = '.'
      · simp [dot]
      · cases parts : cs.splitOn '.' with
        | nil => exact absurd parts (List.splitOn_ne_nil _ _)
        | cons part parts => simp [dot]

theorem intercalate_segments (raw : String) : ".".intercalate (segments raw) = raw := by
  apply String.toList_injective
  rw [String.toList_intercalate, segments, splitDots_eq_splitOn, List.map_map]
  simp [Function.comp_def, List.intercalate_splitOn]

theorem segments_ne_nil (raw : String) : segments raw ≠ [] := by
  rw [segments, splitDots_eq_splitOn]
  simp [List.splitOn_ne_nil]

theorem segments_intercalate {parts : List String} (nonempty : parts ≠ [])
    (apart : ∀ part ∈ parts, '.' ∉ part.toList) : segments (".".intercalate parts) = parts := by
  have split : ((".".intercalate parts).toList).splitOn '.' = parts.map String.toList := by
    rw [String.toList_intercalate]
    exact List.splitOn_intercalate '.' (List.forall_mem_map.mpr apart) (by simpa using nonempty)
  rw [segments, splitDots_eq_splitOn, split, List.map_map]
  simp [Function.comp_def]

end Path

/-! ## Fragments in paths -/

section

variable {α : Type} {part : List α} {sep : α}

theorem infix_or_of_infix_append_cons (apart : sep ∉ part) {xs ys : List α}
    (lies : part <:+: xs ++ sep :: ys) : part <:+: xs ∨ part <:+: ys := by
  rcases List.infix_append_iff.mp lies with before | after | ⟨front, back, rfl, ends, starts⟩
  · exact .inl before
  · rcases List.infix_cons_iff.mp after with starts | later
    · cases part with
      | nil => exact .inr (List.nil_infix)
      | cons c part =>
          cases (List.cons_prefix_cons.mp starts).1
          exact absurd List.mem_cons_self apart
    · exact .inr later
  · cases back with
    | nil =>
        rw [List.append_nil]
        exact .inl ends.isInfix
    | cons c back =>
        cases (List.cons_prefix_cons.mp starts).1
        exact absurd (List.mem_append_right front List.mem_cons_self) apart

theorem exists_infix_of_infix_intercalate (apart : sep ∉ part) :
    ∀ {parts : List (List α)}, parts ≠ [] → part <:+: [sep].intercalate parts →
      ∃ p ∈ parts, part <:+: p
  | [], nonempty, _ => absurd rfl nonempty
  | [p], _, lies => ⟨p, List.mem_singleton_self p, by simpa using lies⟩
  | p :: q :: parts, _, lies => by
      rw [List.intercalate_cons_cons, List.append_assoc, List.singleton_append] at lies
      rcases infix_or_of_infix_append_cons apart lies with here | later
      · exact ⟨p, List.mem_cons_self, here⟩
      · obtain ⟨r, listed, lies⟩ :=
          exists_infix_of_infix_intercalate apart (List.cons_ne_nil q parts) later
        exact ⟨r, List.mem_cons_of_mem p listed, lies⟩

theorem nil_mem_of_pair_infix_intercalate [BEq α] [LawfulBEq α] {parts : List (List α)}
    (nonempty : parts ≠ []) (apart : ∀ p ∈ parts, sep ∉ p)
    (lies : [sep, sep] <:+: [sep].intercalate parts) : [] ∈ parts := by
  obtain ⟨before, after, whole⟩ := lies
  have split : (before ++ sep :: ([] ++ sep :: after)).splitOn sep = parts := by
    rw [← List.splitOn_intercalate sep apart nonempty, ← whole]
    simp
  rw [List.splitOn_append_cons_self, List.splitOn_append_cons_self, List.splitOn_nil] at split
  simp [← split]

end

namespace Identifier

theorem not_dot_mem {s : String} (valid : isValid s = true) : '.' ∉ s.toList := fun listed =>
  absurd ((isValid_iff_isClean_and_isShaped.mp valid).2.1.isLater_of_mem listed) (by decide)

theorem isClean_intercalate {parts : List String} (nonempty : parts ≠ [])
    (valid : ∀ part ∈ parts, isValid part = true) : IsClean (".".intercalate parts) := by
  have nonempty' : parts.map String.toList ≠ [] := by simpa using nonempty
  intro fragment forbidden lies
  rw [String.toList_intercalate] at lies
  by_cases dots : fragment = ".."
  · subst dots
    have apart : ∀ cs ∈ parts.map String.toList, '.' ∉ cs :=
      List.forall_mem_map.mpr fun part listed => not_dot_mem (valid part listed)
    obtain ⟨part, listed, empty⟩ :=
      List.mem_map.mp (nil_mem_of_pair_infix_intercalate nonempty' apart lies)
    have shaped := (isValid_iff_isClean_and_isShaped.mp (valid part listed)).2.1
    exact shaped.toList_ne_nil empty
  · have dotless : ∀ f ∈ forbiddenFragments, f ≠ ".." → '.' ∉ f.toList := by decide
    obtain ⟨cs, part_of, lies⟩ :=
      exists_infix_of_infix_intercalate (dotless fragment forbidden dots) nonempty' lies
    obtain ⟨part, listed, rfl⟩ := List.mem_map.mp part_of
    have clean := (isValid_iff_isClean_and_isShaped.mp (valid part listed)).1
    exact clean fragment forbidden lies

end Identifier

namespace Path

theorem parse_eq_ok_iff {raw : String} {p : Path} : parse raw = .ok p ↔
    p.raw = raw ∧ (segments raw).length ≤ maxPathSegments ∧
      (∀ part ∈ segments raw, Identifier.isValid part = true) ∧
      resolve (segments raw) = .ok p.access := by
  constructor
  · intro parsed
    refine ⟨raw_of_parse parsed, ?_⟩
    unfold parse at parsed
    dsimp only at parsed
    split at parsed
    · cases parsed
    · split at parsed
      · cases parsed
      next few =>
        split at parsed
        · cases parsed
        next valid =>
          refine ⟨Nat.le_of_not_lt few, fun part listed => ?_, ?_⟩
          · exact Identifier.isValid_iff.mpr (List.findSome?_eq_none_iff.mp valid part listed)
          · cases resolved : resolve (segments raw) with
            | error fault =>
                rw [resolved] at parsed
                cases parsed
            | ok access =>
                rw [resolved] at parsed
                cases parsed
                rfl
  · rintro ⟨rfl, few, valid, resolved⟩
    have clean : Identifier.fragmentRejection? p.raw = none := by
      rw [Identifier.fragmentRejection?_eq_none_iff, ← intercalate_segments p.raw]
      exact Identifier.isClean_intercalate (segments_ne_nil p.raw) valid
    have all : (segments p.raw).findSome? Identifier.rejection? = none :=
      List.findSome?_eq_none_iff.mpr fun part listed => Identifier.isValid_iff.mp (valid part listed)
    have few' : ¬ maxPathSegments < (segments p.raw).length := Nat.not_lt.mpr few
    simp only [parse, clean, if_neg few', all, resolved]
    rfl

end Path

/-! ## The language -/

def Root.word : Root → String
  | caster => "caster"
  | target => "target"

def EntityField.ofStat (name : String) : EntityField :=
  if name = "health" then .health else if name = "maxHealth" then .maxHealth else .stat name

namespace Path

/-- What can stand behind a root, and the field it reads. -/
inductive ReadsField : String → EntityField → Prop where
  | reference : ReadsField "" .reference
  | id : ReadsField ".id" .id
  | health : ReadsField ".health" .health
  | maxHealth : ReadsField ".maxHealth" .maxHealth
  | positionX : ReadsField ".position.x" .positionX
  | positionY : ReadsField ".position.y" .positionY
  | facing : ReadsField ".facing" .facing
  | faction : ReadsField ".faction" .faction
  | typeName : ReadsField ".type" .typeName
  | stat {name} (known : name ∈ knownStats) : ReadsField ("." ++ name) (.ofStat name)
  | statBlock {name} (known : name ∈ knownStats) : ReadsField (".stats." ++ name) (.ofStat name)
  | status {name} (valid : Identifier.isValid name = true) :
      ReadsField (".status." ++ name) (.status name)

/-- The texts that are paths, and what each of them reads. -/
inductive Reads : String → Access → Prop where
  | tick : Reads "tick" .tick
  | worldTick : Reads "world.tick" .tick
  | entityCount : Reads "world.entityCount" .entityCount
  | entity (root : Root) {suffix field} (reads : ReadsField suffix field) :
      Reads (root.word ++ suffix) (.entity root field)

/-- The two ways of writing one path: short, and with the place it is in. -/
inductive Alias : String → String → Prop where
  | tick : Alias "tick" "world.tick"
  | stat (root : Root) {name} (known : name ∈ knownStats) :
      Alias (root.word ++ ("." ++ name)) (root.word ++ (".stats." ++ name))

theorem statField_eq_ok_iff {name : String} {field : EntityField} :
    statField name = .ok field ↔ name ∈ knownStats ∧ field = .ofStat name := by
  unfold statField EntityField.ofStat
  by_cases known : name ∈ knownStats <;> simp [known, eq_comm]

/-- Segments behind a root, each with the dot before it. -/
def suffixOf : List String → String
  | [] => ""
  | part :: parts => "." ++ part ++ suffixOf parts

theorem intercalate_cons (root : String) : ∀ parts : List String,
    ".".intercalate (root :: parts) = root ++ suffixOf parts
  | [] => by rw [String.intercalate_singleton, suffixOf, String.append_empty]
  | part :: parts => by
      rw [String.intercalate_cons_cons, intercalate_cons part parts, suffixOf, String.append_assoc,
        String.append_assoc]

theorem suffixOf_singleton (name : String) : suffixOf [name] = "." ++ name :=
  String.append_empty

theorem suffixOf_pair (first second : String) :
    suffixOf [first, second] = "." ++ first ++ "." ++ second := by
  simp only [suffixOf, String.append_empty, String.append_assoc]

theorem readsField_of_entityField {parts : List String} {field : EntityField}
    (valid : ∀ part ∈ parts, Identifier.isValid part = true)
    (named : entityField parts = .ok field) : ReadsField (suffixOf parts) field := by
  unfold entityField at named
  split at named
  case h_10 name =>
    cases named
    rw [suffixOf_pair]
    exact .status (valid name (by simp))
  case h_11 name =>
    obtain ⟨known, rfl⟩ := statField_eq_ok_iff.mp named
    rw [suffixOf_pair]
    exact .statBlock known
  case h_12 name _ =>
    obtain ⟨known, rfl⟩ := statField_eq_ok_iff.mp named
    rw [suffixOf_singleton]
    exact .stat known
  all_goals cases named
  · exact .reference
  · exact .id
  · exact .health
  · exact .maxHealth
  · exact .positionX
  · exact .positionY
  · exact .facing
  · exact .faction
  · exact .typeName

theorem isValid_of_mem_knownStats : ∀ name ∈ knownStats, Identifier.isValid name = true := by
  decide +kernel

theorem entityField_singleton : ∀ name ∈ knownStats, entityField [name] = .ok (.ofStat name) := by
  decide +kernel

theorem exists_segments_of_readsField {suffix : String} {field : EntityField}
    (reads : ReadsField suffix field) : ∃ parts, suffixOf parts = suffix ∧ parts.length ≤ 2 ∧
      (∀ part ∈ parts, Identifier.isValid part = true) ∧ entityField parts = .ok field := by
  cases reads with
  | reference => exact ⟨[], by decide +kernel⟩
  | id => exact ⟨["id"], by decide +kernel⟩
  | health => exact ⟨["health"], by decide +kernel⟩
  | maxHealth => exact ⟨["maxHealth"], by decide +kernel⟩
  | positionX => exact ⟨["position", "x"], by decide +kernel⟩
  | positionY => exact ⟨["position", "y"], by decide +kernel⟩
  | facing => exact ⟨["facing"], by decide +kernel⟩
  | faction => exact ⟨["faction"], by decide +kernel⟩
  | typeName => exact ⟨["type"], by decide +kernel⟩
  | @stat name known =>
      refine ⟨[name], suffixOf_singleton name, by simp, ?_, entityField_singleton name known⟩
      exact List.forall_mem_singleton.mpr (isValid_of_mem_knownStats name known)
  | @statBlock name known =>
      refine ⟨["stats", name], suffixOf_pair .., by simp, ?_, statField_eq_ok_iff.mpr ⟨known, rfl⟩⟩
      exact List.forall_mem_cons.mpr
        ⟨by decide +kernel, List.forall_mem_singleton.mpr (isValid_of_mem_knownStats name known)⟩
  | @status name valid =>
      refine ⟨["status", name], suffixOf_pair .., by simp, ?_, rfl⟩
      exact List.forall_mem_cons.mpr ⟨by decide +kernel, List.forall_mem_singleton.mpr valid⟩

theorem resolve_root (root : Root) (parts : List String) :
    resolve (root.word :: parts) = (entityField parts).map (.entity root) := by
  cases root <;> rfl

theorem reads_of_root {root : Root} {parts : List String} {access : Access}
    (valid : ∀ part ∈ parts, Identifier.isValid part = true)
    (resolved : (entityField parts).map (.entity root) = .ok access) :
    Reads (".".intercalate (root.word :: parts)) access := by
  cases named : entityField parts with
  | error fault =>
      rw [named] at resolved
      cases resolved
  | ok field =>
      rw [named] at resolved
      cases resolved
      rw [intercalate_cons]
      exact .entity root (readsField_of_entityField valid named)

theorem reads_of_resolve {parts : List String} {access : Access}
    (valid : ∀ part ∈ parts, Identifier.isValid part = true)
    (resolved : resolve parts = .ok access) : Reads (".".intercalate parts) access := by
  unfold resolve at resolved
  split at resolved
  · cases resolved
    exact .tick
  · cases resolved
    exact .worldTick
  · cases resolved
    exact .entityCount
  · cases resolved
  · exact reads_of_root (List.forall_mem_cons.mp valid).2 resolved
  · exact reads_of_root (List.forall_mem_cons.mp valid).2 resolved
  · cases resolved

theorem exists_segments_of_reads {s : String} {access : Access} (reads : Reads s access) :
    ∃ parts, ".".intercalate parts = s ∧ parts ≠ [] ∧ parts.length ≤ maxPathSegments ∧
      (∀ part ∈ parts, Identifier.isValid part = true) ∧ resolve parts = .ok access := by
  cases reads with
  | tick => exact ⟨["tick"], by decide +kernel⟩
  | worldTick => exact ⟨["world", "tick"], by decide +kernel⟩
  | entityCount => exact ⟨["world", "entityCount"], by decide +kernel⟩
  | entity root reads =>
      obtain ⟨parts, rfl, few, valid, named⟩ := exists_segments_of_readsField reads
      have root_valid : Identifier.isValid root.word = true := by cases root <;> decide +kernel
      refine ⟨root.word :: parts, intercalate_cons .., List.cons_ne_nil _ _, ?_,
        List.forall_mem_cons.mpr ⟨root_valid, valid⟩, ?_⟩
      · calc (root.word :: parts).length = parts.length + 1 := rfl
          _ ≤ 2 + 1 := Nat.succ_le_succ few
          _ ≤ maxPathSegments := by decide
      · rw [resolve_root, named]
        rfl

theorem parse_eq_ok_iff_reads {s : String} {p : Path} :
    parse s = .ok p ↔ p.raw = s ∧ Reads s p.access := by
  rw [parse_eq_ok_iff]
  refine and_congr_right fun _ => ⟨?_, ?_⟩
  · rintro ⟨-, valid, resolved⟩
    have reads := reads_of_resolve valid resolved
    rwa [intercalate_segments] at reads
  · intro reads
    obtain ⟨parts, rfl, nonempty, few, valid, resolved⟩ := exists_segments_of_reads reads
    rw [segments_intercalate nonempty fun part listed => Identifier.not_dot_mem (valid part listed)]
    exact ⟨few, valid, resolved⟩

/-! ## Aliases -/

def fieldInFull : EntityField → String
  | .reference => ""
  | .id => ".id"
  | .health => ".stats.health"
  | .maxHealth => ".stats.maxHealth"
  | .positionX => ".position.x"
  | .positionY => ".position.y"
  | .facing => ".facing"
  | .faction => ".faction"
  | .typeName => ".type"
  | .stat name => ".stats." ++ name
  | .status name => ".status." ++ name

def inFull : Access → String
  | .tick => "world.tick"
  | .entityCount => "world.entityCount"
  | .entity root field => root.word ++ fieldInFull field

theorem fieldInFull_ofStat (name : String) : fieldInFull (.ofStat name) = ".stats." ++ name := by
  unfold EntityField.ofStat
  split
  case isTrue full => rw [full]; rfl
  case isFalse =>
    split
    case isTrue full => rw [full]; rfl
    case isFalse => rfl

theorem ReadsField.inFull_or {suffix : String} {field : EntityField} (reads : ReadsField suffix field) :
    suffix = fieldInFull field ∨
      ∃ name ∈ knownStats, suffix = "." ++ name ∧ fieldInFull field = ".stats." ++ name := by
  cases reads with
  | health => exact .inr ⟨"health", by decide +kernel⟩
  | maxHealth => exact .inr ⟨"maxHealth", by decide +kernel⟩
  | @stat name known => exact .inr ⟨name, known, rfl, fieldInFull_ofStat name⟩
  | @statBlock name known => exact .inl (fieldInFull_ofStat name).symm
  | _ => exact .inl rfl

theorem Reads.inFull_or {s : String} {access : Access} (reads : Reads s access) :
    s = inFull access ∨ Alias s (inFull access) := by
  cases reads with
  | tick => exact .inr .tick
  | worldTick => exact .inl rfl
  | entityCount => exact .inl rfl
  | @entity root suffix field reads =>
      rcases reads.inFull_or with rfl | ⟨name, known, rfl, full⟩
      · exact .inl rfl
      · rw [inFull, full]
        exact .inr (.stat root known)

theorem toList_length_word (root : Root) : root.word.toList.length = 6 := by cases root <;> rfl

theorem word_append_inj {root root' : Root} {x y : String}
    (same : root.word ++ x = root'.word ++ y) : root = root' ∧ x = y := by
  have chars : root.word.toList ++ x.toList = root'.word.toList ++ y.toList := by
    rw [← String.toList_append, same, String.toList_append]
  obtain ⟨words, rests⟩ := List.append_inj chars
    ((toList_length_word root).trans (toList_length_word root').symm)
  refine ⟨?_, String.toList_inj.mp rests⟩
  revert words
  cases root <;> cases root' <;> decide +kernel

theorem word_append_ne_worldTick (root : Root) (x : String) : root.word ++ x ≠ "world.tick" := by
  intro same
  have chars : root.word.toList ++ x.toList = "world.".toList ++ "tick".toList := by
    rw [← String.toList_append, same]
    rfl
  have words := (List.append_inj chars (toList_length_word root)).1
  revert words
  cases root <;> decide +kernel

theorem Alias.left_unique {s t full full' : String} (first : Alias s full) (second : Alias t full')
    (same : full = full') : s = t := by
  cases first with
  | tick =>
      cases second with
      | tick => rfl
      | stat root => exact absurd same.symm (word_append_ne_worldTick root _)
  | stat root =>
      cases second with
      | tick => exact absurd same (word_append_ne_worldTick root _)
      | stat root' =>
          obtain ⟨rfl, names⟩ := word_append_inj same
          rw [(String.append_right_inj _).mp names]

theorem Alias.reads {s t : String} (short : Alias s t) : ∃ access, Reads s access ∧ Reads t access := by
  cases short with
  | tick => exact ⟨.tick, .tick, .worldTick⟩
  | stat root known => exact ⟨_, .entity root (.stat known), .entity root (.statBlock known)⟩

theorem Reads.eq_or_alias {s t : String} {access : Access} (first : Reads s access)
    (second : Reads t access) : s = t ∨ Alias s t ∨ Alias t s := by
  rcases first.inFull_or with rfl | short
  · rcases second.inFull_or with rfl | short'
    · exact .inl rfl
    · exact .inr (.inr short')
  · rcases second.inFull_or with rfl | short'
    · exact .inr (.inl short)
    · exact .inl (short.left_unique short' rfl)

theorem Reads.unique {s : String} {a b : Access} (first : Reads s a) (second : Reads s b) : a = b := by
  have parsed : parse s = .ok ⟨s, a⟩ := parse_eq_ok_iff_reads.mpr ⟨rfl, first⟩
  have parsed' : parse s = .ok ⟨s, b⟩ := parse_eq_ok_iff_reads.mpr ⟨rfl, second⟩
  cases parsed.symm.trans parsed'
  rfl

/-- A text is accepted exactly if it is in the language of paths, and it is kept and read as the
language says. Two texts have the same meaning exactly if they are equal or one is the alias of the
other. -/
theorem parse_by_language (s : String) :
    (∀ p, parse s = .ok p ↔ p.raw = s ∧ Reads s p.access) ∧
    (∀ p, parse s = .ok p → parse p.raw = .ok p) ∧
    (∀ t p q, parse s = .ok p → parse t = .ok q →
      (p.access = q.access ↔ s = t ∨ Alias s t ∨ Alias t s)) := by
  refine ⟨fun p => parse_eq_ok_iff_reads, fun p parsed => ?_, fun t p q parsed parsed' => ⟨?_, ?_⟩⟩
  · rwa [raw_of_parse parsed]
  · intro same
    have first := (parse_eq_ok_iff_reads.mp parsed).2
    have second := (parse_eq_ok_iff_reads.mp parsed').2
    exact Reads.eq_or_alias first (same ▸ second)
  · have first := (parse_eq_ok_iff_reads.mp parsed).2
    have second := (parse_eq_ok_iff_reads.mp parsed').2
    rintro (rfl | short | short)
    · exact first.unique second
    · obtain ⟨access, reads, reads'⟩ := short.reads
      exact (first.unique reads).trans (reads'.unique second)
    · obtain ⟨access, reads', reads⟩ := short.reads
      exact (first.unique reads).trans (reads'.unique second)

theorem mana_and_its_alias :
    parse "caster.mana" = .ok ⟨"caster.mana", .entity .caster (.stat "mana")⟩ ∧
    parse "caster.stats.mana" = .ok ⟨"caster.stats.mana", .entity .caster (.stat "mana")⟩ ∧
    Reads "caster.mana" (.entity .caster (.stat "mana")) ∧
    ("caster.mana" = "caster.stats.mana" ∨ Alias "caster.mana" "caster.stats.mana" ∨
      Alias "caster.stats.mana" "caster.mana") := by
  have short : parse "caster.mana" = .ok ⟨"caster.mana", .entity .caster (.stat "mana")⟩ := by
    decide +kernel
  have full : parse "caster.stats.mana" =
      .ok ⟨"caster.stats.mana", .entity .caster (.stat "mana")⟩ := by
    decide +kernel
  obtain ⟨language, -, aliases⟩ := parse_by_language "caster.mana"
  exact ⟨short, full, ((language _).mp short).2, (aliases _ _ _ short full).mp rfl⟩

end Path

end Grimoire
