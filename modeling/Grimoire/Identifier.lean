import Grimoire.Text.Quoted

/-! # Identifiers

A text that comes from a document is used as a key only after it was accepted here.  An identifier is
an ASCII letter followed by ASCII letters, digits and underscores, at most `maxLength` bytes in all,
without two underscores in a row, and none of the names that are reserved for the machinery of a
host, in any case.  A text that is not accepted has one `Rejection`, the first that applies: a
forbidden fragment, in the order of the list, comes before everything else.
-/

namespace Grimoire

inductive Rejection where
  | empty
  | tooLong (bytes : Nat)
  | fragment (fragment : String)
  | reserved
  | character (c : Char)
  deriving DecidableEq, Repr

namespace Identifier

def maxLength : Nat := 64

def reservedNames : List String :=
  ["__proto__", "prototype", "constructor", "__definegetter__", "__definesetter__",
   "__lookupgetter__", "__lookupsetter__", "hasownproperty", "isprototypeof",
   "propertyisenumerable", "tostring", "tolocalestring", "valueof", "eval", "function", "require",
   "import", "process", "globalthis", "global", "window", "module", "exports", "this"]

/-- Fragments that no identifier and no path may contain, in the order they are looked for. -/
def forbiddenFragments : List String :=
  ["__", "..", "/", "\\", "$\x7b", "`", "(", ")", "[", "]", "\x7b", "\x7d", ";", "<", ">", "'",
   "\"", "=", "\x00"]

def occursIn (part : List Char) : List Char → Bool
  | [] => part.isEmpty
  | c :: cs => part.isPrefixOf (c :: cs) || occursIn part cs

/-- The first forbidden fragment of the list that a text contains. -/
def forbiddenFragment? (s : String) : Option String :=
  forbiddenFragments.find? fun fragment => occursIn fragment.toList s.toList

def isFirst (c : Char) : Bool := c.isAlpha

def isLater (c : Char) : Bool := c.isAlphanum || c = '_'

/-- Whether a text is a reserved name, in any case of its ASCII letters. -/
def isReserved (s : String) : Bool :=
  reservedNames.contains (String.ofList (s.toList.map Char.toLower))

/-- Why the characters of a text without forbidden fragments make no identifier. -/
def characterRejection? (s : String) : Option Rejection :=
  match s.toList with
  | [] => some .empty
  | first :: later =>
    if maxLength < s.utf8ByteSize then some (.tooLong s.utf8ByteSize)
    else if !isFirst first then some (.character first)
    else match later.find? (!isLater ·) with
      | some c => some (.character c)
      | none => if isReserved s then some .reserved else none

def fragmentRejection? (s : String) : Option Rejection := (forbiddenFragment? s).map .fragment

def rejection? (s : String) : Option Rejection :=
  match fragmentRejection? s with
  | some r => some r
  | none => characterRejection? s

def isValid (s : String) : Bool := (rejection? s).isNone

end Identifier

namespace Rejection

def message : Rejection → String
  | empty => "empty identifier"
  | tooLong bytes =>
    "identifier of " ++ toString bytes ++ " characters exceeds " ++ toString Identifier.maxLength
  | fragment f => "contains forbidden sequence " ++ Quoted.text f
  | reserved => "forbidden name"
  | character c => "character " ++ Quoted.char c ++ " not allowed"

end Rejection

end Grimoire
