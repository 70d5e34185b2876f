import Grimoire.Json.Token

/-! # Reading documents

`Json.read` answers the value at the front of a text and whether the text ends with it, and
`Json.read?` answers the value of a text that is a document from end to end and has no flaw.  Where the
text stops being JSON the value ends in the flaw `cut`, behind all that was read before it.

Each part answers what it read and what is left, or that nothing is left to be read.  Nesting is the
recursion, as deep as `maxNesting`; the items of a list are read by a loop that needs one character at
least for each.  Lists and records nested deeper than that are only passed over, with a list of what
closes the open ones.
-/

namespace Grimoire

namespace Json

def maxNesting : Nat := 127

/-! ## Passing over values -/

def skipName (cs : List Char) : Option (List Char) :=
  match skipBlank cs with
  | '"' :: cs => do
    let (_, rest) ← readText cs
    match skipBlank rest with
    | ':' :: rest => some rest
    | _ => none
  | _ => none

/-- What is left before the value of the next entry of what `close` closes: a record names it. -/
def skipToEntry (close : Char) (cs : List Char) : Option (List Char) :=
  if close = '\x7d' then skipName cs else some cs

/-- What is left after everything that is open is closed, of which `closers` has the closing
characters, the innermost first; `fresh` says whether a value comes next.  A step takes a character,
or is the last. -/
def skipNested : Nat → Bool → List Char → List Char → Option (List Char)
  | 0, _, _, _ => none
  | _ + 1, false, [], cs => some cs
  | fuel + 1, false, close :: closers, cs =>
    match skipBlank cs with
    | [] => none
    | c :: rest =>
      if c = ',' then (skipToEntry close rest).bind (skipNested fuel true (close :: closers))
      else if c = close then skipNested fuel false closers rest
      else none
  | fuel + 1, true, closers, cs =>
    match skipBlank cs with
    | '[' :: rest => match skipBlank rest with
      | ']' :: rest => skipNested fuel false closers rest
      | _ => skipNested fuel true (']' :: closers) rest
    | '\x7b' :: rest => match skipBlank rest with
      | '\x7d' :: rest => skipNested fuel false closers rest
      | _ => (skipName rest).bind (skipNested fuel true ('\x7d' :: closers))
    | cs => (readScalar cs).bind fun (_, rest) => skipNested fuel false closers rest

def readNested (cs : List Char) : Json × Option (List Char) :=
  match skipNested (cs.length + 1) true [] cs with
  | some rest => (flaw .illegible, some rest)
  | none => (flaw .cut, none)

/-! ## Values -/

/-- Items separated by commas up to a closing character, at least one; `last` is the item where the
text breaks off between two items. -/
def readItems {β : Type} (close : Char) (last : β) (item : List Char → β × Option (List Char)) :
    Nat → List Char → List β → List β × Option (List Char)
  | 0, _, done => ((last :: done).reverse, none)
  | fuel + 1, cs, done =>
    match item (skipBlank cs) with
    | (x, none) => ((x :: done).reverse, none)
    | (x, some rest) =>
      match skipBlank rest with
      | [] => ((last :: x :: done).reverse, none)
      | c :: rest =>
        if c = ',' then readItems close last item fuel rest (x :: done)
        else if c = close then ((x :: done).reverse, some rest)
        else ((last :: x :: done).reverse, none)

/-- Items separated by commas up to a closing character, after the opening one. -/
def readSequence {β : Type} (close : Char) (last : β)
    (item : List Char → β × Option (List Char)) (cs : List Char) : List β × Option (List Char) :=
  match skipBlank cs with
  | [] => ([last], none)
  | c :: rest =>
    if c = close then ([], some rest) else readItems close last item cs.length cs []

def cutMember : String × Json := ("", flaw .cut)

/-- A member with a name that may be one that cannot be kept, and with the value that was read. -/
def ofMember (name : Option String) (j : Json) (goesOn : Bool) : String × Json :=
  match name with
  | some name => (name, j)
  | none => ("", flaw (if goesOn then .misnamed else .cut))

def readMember (value : List Char → Json × Option (List Char)) :
    List Char → (String × Json) × Option (List Char)
  | '"' :: cs =>
    match readText cs with
    | none => (cutMember, none)
    | some (name, rest) =>
      match skipBlank rest with
      | ':' :: rest =>
        let (j, rest) := value (skipBlank rest)
        (ofMember name j rest.isSome, rest)
      | _ => (cutMember, none)
  | _ => (cutMember, none)

/-- A value that is no list and no record, or the end of what can be read. -/
def readLeaf (cs : List Char) : Json × Option (List Char) :=
  match readScalar cs with
  | some (j, rest) => (j, some rest)
  | none => (flaw .cut, none)

def readValue : Nat → List Char → Json × Option (List Char)
  | 0, '[' :: cs => readNested ('[' :: cs)
  | 0, '\x7b' :: cs => readNested ('\x7b' :: cs)
  | depth + 1, '[' :: cs =>
    let (items, rest) := readSequence ']' (flaw .cut) (readValue depth) cs
    (list items, rest)
  | depth + 1, '\x7b' :: cs =>
    let (members, rest) := readSequence '\x7d' cutMember (readMember (readValue depth)) cs
    (record members, rest)
  | _, cs => readLeaf cs

/-- The value at the front of a text, and whether nothing but blank space follows it. -/
def read (s : String) : Json × Bool :=
  match readValue maxNesting (skipBlank s.toList) with
  | (j, some rest) => (j, (skipBlank rest).isEmpty)
  | (j, none) => (j, false)

def read? (s : String) : Option Json :=
  let (j, ends) := read s
  if ends && j.isFlawless then some j else none

end Json

end Grimoire
