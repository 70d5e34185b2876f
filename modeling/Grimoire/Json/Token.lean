import Grimoire.Json.Basic
import Grimoire.Number.Decimal

/-! # The parts of a document that hold no others

Blank space, numbers, texts, and the three words.  Each reader works on the characters that are left:
it answers what it read and what is left then, or nothing where the characters are no JSON.  A number
or a text that is written well and cannot be kept is read to its end all the same.
-/

namespace Grimoire

namespace Json

def isBlank (c : Char) : Bool := c = ' ' || c = '\t' || c = '\n' || c = '\r'

def skipBlank (cs : List Char) : List Char := cs.dropWhile isBlank

/-! ## Numbers -/

structure Numeral where
  negative : Bool
  whole : List Char
  /-- The digits after the point; empty without a point. -/
  fraction : List Char
  exponent : Option Int
  /-- Whether the number has neither point nor exponent. -/
  isPlain : Bool

def digitsValue (cs : List Char) : Nat := cs.foldl (fun n c => 10 * n + Decimal.digit c) 0

def readDigits (cs : List Char) : Option (List Char × List Char) :=
  match cs.takeWhile Char.isDigit with
  | [] => none
  | ds => some (ds, cs.dropWhile Char.isDigit)

def readWhole (cs : List Char) : Option (List Char × List Char) :=
  match readDigits cs with
  | some ('0' :: _ :: _, _) => none
  | other => other

def readFraction : List Char → Option (Option (List Char) × List Char)
  | '.' :: cs => (readDigits cs).map fun (ds, rest) => (some ds, rest)
  | cs => some (none, cs)

def readExponentDigits : List Char → Option (Int × List Char)
  | '-' :: cs => (readDigits cs).map fun (ds, rest) => (-(digitsValue ds : Int), rest)
  | '+' :: cs => (readDigits cs).map fun (ds, rest) => ((digitsValue ds : Int), rest)
  | cs => (readDigits cs).map fun (ds, rest) => ((digitsValue ds : Int), rest)

def readExponent : List Char → Option (Option Int × List Char)
  | 'e' :: cs => (readExponentDigits cs).map fun (n, rest) => (some n, rest)
  | 'E' :: cs => (readExponentDigits cs).map fun (n, rest) => (some n, rest)
  | cs => some (none, cs)

def readUnsigned (negative : Bool) (cs : List Char) : Option (Numeral × List Char) := do
  let (whole, cs) ← readWhole cs
  let (fraction, cs) ← readFraction cs
  let (exponent, cs) ← readExponent cs
  some (⟨negative, whole, fraction.getD [], exponent, fraction.isNone && exponent.isNone⟩, cs)

def readNumeral : List Char → Option (Numeral × List Char)
  | '-' :: cs => readUnsigned true cs
  | cs => readUnsigned false cs

/-- The value of a number: a whole number written without point and exponent that fits 64 bits stays
whole, except `-0`, and all others are doubles; no double is as large as some. -/
def Numeral.value (n : Numeral) : Json :=
  let whole := digitsValue n.whole
  let isInt := if n.negative then 0 < whole && whole ≤ twoTo 63 else whole < twoTo 64
  if n.isPlain && isInt then int (if n.negative then -(whole : Int) else whole)
  else match Decimal.toFloat? n.negative n.whole n.fraction (n.exponent.getD 0) with
    | some x => float x
    | none => flaw .illegible

/-! ## Texts -/

def hexValue? (c : Char) : Option Nat :=
  if c.isDigit then some (c.toNat - 48)
  else if 'a' ≤ c ∧ c ≤ 'f' then some (c.toNat - 87)
  else if 'A' ≤ c ∧ c ≤ 'F' then some (c.toNat - 55)
  else none

def readUnit : List Char → Option (Nat × List Char)
  | a :: b :: c :: d :: rest => do
    let a ← hexValue? a
    let b ← hexValue? b
    let c ← hexValue? c
    let d ← hexValue? d
    some (((a * 16 + b) * 16 + c) * 16 + d, rest)
  | _ => none

def readLow : List Char → Option (Nat × List Char)
  | '\\' :: 'u' :: cs => do
    let (low, rest) ← readUnit cs
    if 0xDC00 ≤ low ∧ low < 0xE000 then some (low, rest) else none
  | _ => none

/-- The character after `\u`: one unit, or two that form a surrogate pair.  A unit of a pair that
stands alone is no character. -/
def readUnicode (cs : List Char) : Option (Option Char × List Char) := do
  let (high, rest) ← readUnit cs
  if 0xD800 ≤ high ∧ high < 0xDC00 then
    match readLow rest with
    | some (low, rest) =>
      some (some (Char.ofNat (0x10000 + (high - 0xD800) * 1024 + (low - 0xDC00))), rest)
    | none => some (none, rest)
  else if 0xDC00 ≤ high ∧ high < 0xE000 then some (none, rest)
  else some (some (Char.ofNat high), rest)

def readEscape : List Char → Option (Option Char × List Char)
  | '"' :: cs => some (some '"', cs)
  | '\\' :: cs => some (some '\\', cs)
  | '/' :: cs => some (some '/', cs)
  | 'b' :: cs => some (some '\x08', cs)
  | 'f' :: cs => some (some '\x0c', cs)
  | 'n' :: cs => some (some '\n', cs)
  | 'r' :: cs => some (some '\r', cs)
  | 't' :: cs => some (some '\t', cs)
  | 'u' :: cs => readUnicode cs
  | _ => none

/-- The rest of a text after its opening quote, with the characters read so far in reverse, or none
of them once one was no character.  Every step takes a character, so the count of characters bounds
the steps. -/
def readTextFrom : Nat → List Char → Option (List Char) → Option (Option String × List Char)
  | 0, _, _ => none
  | _ + 1, [], _ => none
  | fuel + 1, c :: cs, done =>
    if c = '"' then some (done.map fun done => String.ofList done.reverse, cs)
    else if c = '\\' then
      match readEscape cs with
      | some (some e, rest) => readTextFrom fuel rest (done.map (e :: ·))
      | some (none, rest) => readTextFrom fuel rest none
      | none => none
    else if c.toNat < 32 then none
    else readTextFrom fuel cs (done.map (c :: ·))

def readText (cs : List Char) : Option (Option String × List Char) :=
  readTextFrom cs.length cs (some [])

/-! ## Values -/

def readScalar : List Char → Option (Json × List Char)
  | 'n' :: 'u' :: 'l' :: 'l' :: cs => some (null, cs)
  | 't' :: 'r' :: 'u' :: 'e' :: cs => some (bool true, cs)
  | 'f' :: 'a' :: 'l' :: 's' :: 'e' :: cs => some (bool false, cs)
  | '"' :: cs => (readText cs).map fun (s, rest) => (s.elim (flaw .illegible) text, rest)
  | cs => (readNumeral cs).map fun (n, rest) => (n.value, rest)

end Json

end Grimoire
