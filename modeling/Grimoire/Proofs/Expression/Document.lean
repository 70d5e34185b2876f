import Grimoire.Effect.Document
import Grimoire.Proofs.Expression.Check

/-! # Expressions and their documents

What an expression is written as is read as that expression, provided that its paths read what their
texts stand for and that its numbers read back.  The first is so for every expression that was read.

Writing and reading are not each other's mirror: what is written by kind of node is read by the first
shape that fits, so each kind of node has to be shown to fit none of the shapes that come before its
own.  The induction is on the expression; it goes through the draft, which is the whole tree, before any
of the tree is checked.
-/

namespace Grimoire

open Json Record

namespace Expr

variable {α : Type}

mutual

def numbers : Expr α → List α
  | number x => [x]
  | bool _ | path _ | text _ => []
  | binary _ l r => l.numbers ++ r.numbers
  | unary _ e => e.numbers
  | call _ args => numbersAll args

def numbersAll : List (Expr α) → List α
  | [] => []
  | e :: es => e.numbers ++ numbersAll es

end

/-- Whether nothing in an expression is lost when it is written: each path reads what its text stands
for, and each number reads back. -/
structure IsKept (e : Expr Float) : Prop where
  resolved : e.IsResolved
  back : ∀ x ∈ e.numbers, ReadsBack x

namespace IsKept

variable {op : BinaryOp} {sign : UnaryOp} {e l r : Expr Float}

theorem left (h : (binary op l r).IsKept) : l.IsKept :=
  ⟨fun p listed => h.resolved p (List.mem_append_left _ listed),
    fun x listed => h.back x (List.mem_append_left _ listed)⟩

theorem right (h : (binary op l r).IsKept) : r.IsKept :=
  ⟨fun p listed => h.resolved p (List.mem_append_right _ listed),
    fun x listed => h.back x (List.mem_append_right _ listed)⟩

theorem operand (h : (unary sign e).IsKept) : e.IsKept := ⟨h.resolved, h.back⟩

theorem head {function : String} {es : List (Expr Float)} (h : (call function (e :: es)).IsKept) :
    e.IsKept :=
  ⟨fun p listed => h.resolved p (List.mem_append_left _ listed),
    fun x listed => h.back x (List.mem_append_left _ listed)⟩

theorem tail {function : String} {es : List (Expr Float)} (h : (call function (e :: es)).IsKept) :
    (call function es).IsKept :=
  ⟨fun p listed => h.resolved p (List.mem_append_right _ listed),
    fun x listed => h.back x (List.mem_append_right _ listed)⟩

end IsKept

end Expr

/-! ## Reading what was written -/

namespace Draft

variable {name : String} {parts : List (String × Part)} {part : Part}

theorem partText?_eq {s : String} (once : Once [name] parts part) (h : part.json = .text s) :
    partText? name parts = some s := by
  rw [partText?, tag?_eq once, h]
  rfl

theorem operand?_eq {j : Json} {d : Draft Float} {drafts : Option (List (Draft Float))}
    (once : Once [name] parts ⟨j, ofJson? j, drafts⟩) (h : ofJson? j = some d) :
    operand? name parts = some (some d) := by
  obtain ⟨place, only⟩ := once
  rw [operand?, only]
  dsimp only
  split
  · cases h
  · rw [h]
    rfl

theorem args?_eq (once : Once ["args"] parts part) : args? parts = part.drafts? := by
  obtain ⟨place, only⟩ := once
  rw [args?, only]

theorem operatorShape?_eq {token : String} {left right operand : Option (Draft Float)}
    (ht : partText? "op" parts = some token) (hl : operand? "left" parts = some left)
    (hr : operand? "right" parts = some right) (ho : operand? "operand" parts = some operand) :
    operatorShape? parts = some (operator token left right operand) := by
  rw [operatorShape?, ht, hl, hr, ho]
  rfl

theorem callShape?_eq {function : String} {args : List (Draft Float)}
    (hf : partText? "fn" parts = some function) (ha : args? parts = some args) :
    callShape? parts = some (call function args) := by
  rw [callShape?, hf, ha]
  rfl

end Draft

namespace Expr

open Draft

theorem ofFloat_eq_float {x : Float} (back : ReadsBack x) : Json.ofFloat x = .float x := by
  rw [Json.ofFloat, if_pos back.isFinite]

mutual

theorem legible_toJson : ∀ {e : Expr Float}, e.IsKept → e.toJson.Legible
  | number x, h => by
      have back := h.back x List.mem_cons_self
      rw [toJson, ofFloat_eq_float back]
      exact .float back
  | bool b, _ => .bool b
  | path p, _ => .text p.raw
  | text s, _ => .record (by simp)
  | binary op l r, h => .record (by simp [legible_toJson h.left, legible_toJson h.right])
  | unary op e, h => .record (by simp [legible_toJson h.operand])
  | call function args, h => .record (by simpa using legible_toJsonAll h)

theorem legible_toJsonAll {function : String} : ∀ {es : List (Expr Float)},
    (call function es).IsKept → ∀ j ∈ toJsonAll es, j.Legible
  | [], _, _, listed => absurd listed List.not_mem_nil
  | _ :: _, h, j, listed => by
      obtain rfl | later := List.mem_cons.mp listed
      · exact legible_toJson h.head
      · exact legible_toJsonAll h.tail j later

end

mutual

theorem draft_toJson : ∀ {e : Expr Float}, e.IsKept → ofJson? e.toJson = some e.draft
  | number x, h => by
      rw [toJson, ofFloat_eq_float (h.back x List.mem_cons_self)]
      rfl
  | bool b, _ => rfl
  | path p, _ => rfl
  | text s, _ => rfl
  | binary op l r, h => by
      have shape : operatorShape? (ofMembers
          [("op", .text op.token), ("left", l.toJson), ("right", r.toJson)])
            = some (.operator op.token (some l.draft) (some r.draft) none) :=
        operatorShape?_eq (partText?_eq ⟨_, rfl⟩ rfl) (operand?_eq ⟨_, rfl⟩ (draft_toJson h.left))
          (operand?_eq ⟨_, rfl⟩ (draft_toJson h.right)) rfl
      change (operatorShape? _).orElse _ = _
      rw [shape]
      rfl
  | unary op e, h => by
      have shape : operatorShape? (ofMembers [("op", .text op.token), ("operand", e.toJson)])
          = some (.operator op.token none none (some e.draft)) :=
        operatorShape?_eq (partText?_eq ⟨_, rfl⟩ rfl) rfl rfl
          (operand?_eq ⟨_, rfl⟩ (draft_toJson h.operand))
      change (operatorShape? _).orElse _ = _
      rw [shape]
      rfl
  | call function args, h =>
      callShape?_eq (partText?_eq ⟨_, rfl⟩ rfl) ((args?_eq ⟨_, rfl⟩).trans (drafts_toJsonAll h))

theorem drafts_toJsonAll {function : String} : ∀ {es : List (Expr Float)},
    (call function es).IsKept → ofItems? (toJsonAll es) = some (draftAll es)
  | [], _ => rfl
  | e :: es, h => by rw [toJsonAll, ofItems?, draft_toJson h.head, drafts_toJsonAll h.tail]; rfl

end

/-- What an expression is written as is read as that expression. -/
theorem spells {e : Expr Float} (h : e.IsKept) : Spells ofJson e.toJson e := by
  have legible := legible_toJson h
  refine ⟨legible, ?_⟩
  rw [ofJson, asWhole_of_isFlawless _ legible.isFlawless]
  simp only [draft_toJson h, check_draft h.resolved]

/-- An expression is written as something that stands for itself. -/
theorem toJson_ne_null {e : Expr Float} (h : e.IsKept) : e.toJson ≠ .null := by
  intro shape
  have draft := draft_toJson h
  rw [shape] at draft
  cases draft

end Expr

/-! ## What is read -/

namespace Expr

/-- Every path of an expression that was read is what its text stands for. -/
theorem ofJson_yields : Json.Yields ofJson IsResolved := by
  refine Json.Yields.whole fun j e h => ?_
  split at h
  · cases h
  · split at h
    next checked =>
      cases h
      exact (Draft.check_eq_ok_iff.mp checked).2
    · cases h

end Expr

end Grimoire
