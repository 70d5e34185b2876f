import Grimoire.Json.Record

/-! # Records of several kinds

A record may be one of several kinds, which a member of it says; each kind has members of its own.
That member may come last, so such a record is held as a whole before it is read.  The kinds stand in
a list: within what is held, a record may say its kind by the place in that list, as well as by name.
A list stands for such a record when its first value says the kind.
-/

namespace Grimoire

inductive Naming where
  | name
  /-- By a name, or by the place in the list of kinds, counted from zero. -/
  | nameOrPlace

structure Kind (β γ : Type) where
  names : List String
  /-- The members besides the one that says the kind. -/
  columns : Columns
  read : List (String × β) → Placed γ

namespace Kind

variable {β γ : Type}

def find? (naming : Naming) (kinds : List (Kind β γ)) : Json → Option (Kind β γ)
  | .text s => kinds.find? fun kind => kind.names.contains s
  | .int n => match naming with
    | .name => none
    | .nameOrPlace => if 0 ≤ n then kinds[n.toNat]? else none
  | _ => none

theorem mem_of_find? {naming : Naming} {kinds : List (Kind β γ)} {j : Json} {kind : Kind β γ}
    (h : find? naming kinds j = some kind) : kind ∈ kinds := by
  unfold find? at h
  split at h
  · exact List.mem_of_find?_eq_some h
  · split at h
    · contradiction
    · split at h
      · exact List.mem_of_getElem? h
      · contradiction
  · contradiction

/-- Reads a record of some kind from its members, of which the one named `tag` says the kind. -/
def ofMembers (naming : Naming) (kinds : List (Kind β γ)) (tag : String) (json : β → Json)
    (members : List (String × β)) : Except DecodeFault γ :=
  match Record.tag? tag (fun value => find? naming kinds (json value)) members with
  | none => .error .shape
  | some kind => (kind.read members).run

/-- Reads a record of some kind from a list of values, of which the first says the kind. -/
def ofValues (naming : Naming) (kinds : List (Kind β γ)) (json : β → Json) :
    List β → Except DecodeFault γ
  | [] => .error .shape
  | value :: values =>
    match find? naming kinds (json value) with
    | none => .error .shape
    | some kind => (kind.columns.read kind.read values).run

def ofJson (naming : Naming) (kinds : List (Kind Json γ)) (tag : String) :
    Json → Except DecodeFault γ :=
  Json.asWhole fun
    | .record members => ofMembers naming kinds tag id members
    | .list values => ofValues naming kinds id values
    | _ => .error .shape

end Kind

end Grimoire
