import Grimoire.Json.Basic
import Grimoire.Number.Layout

/-! # Writing documents

`Json.compact` writes a value without blanks.  In texts only the quote, the backslash and control
characters are escaped.  A flaw is no value and is written `null`.  `Json.plainNumbers` turns every
double into the text that messages show, for readers that compare numbers as texts.
-/

namespace Grimoire

namespace Json

def escape (c : Char) : List Char :=
  if c = '"' then ['\\', '"']
  else if c = '\\' then ['\\', '\\']
  else if c = '\x08' then ['\\', 'b']
  else if c = '\x0c' then ['\\', 'f']
  else if c = '\n' then ['\\', 'n']
  else if c = '\r' then ['\\', 'r']
  else if c = '\t' then ['\\', 't']
  else if c.toNat < 32 then
    ['\\', 'u', '0', '0', Nat.digitChar (c.toNat / 16), Nat.digitChar (c.toNat % 16)]
  else [c]

def quote (s : String) : List Char := '"' :: s.toList.flatMap escape ++ ['"']

mutual

def compactChars : Json → List Char
  | null => ['n', 'u', 'l', 'l']
  | bool true => ['t', 'r', 'u', 'e']
  | bool false => ['f', 'a', 'l', 's', 'e']
  | int n => if n < 0 then '-' :: Nat.toDigits 10 n.natAbs else Nat.toDigits 10 n.natAbs
  | float x => (Layout.document.write x).toList
  | text s => quote s
  | list items => '[' :: compactItems items ++ [']']
  | record members => '\x7b' :: compactMembers members ++ ['\x7d']
  | flaw _ => ['n', 'u', 'l', 'l']

def compactItems : List Json → List Char
  | [] => []
  | [x] => compactChars x
  | x :: xs => compactChars x ++ ',' :: compactItems xs

def compactMembers : List (String × Json) → List Char
  | [] => []
  | [(name, x)] => quote name ++ ':' :: compactChars x
  | (name, x) :: xs => quote name ++ ':' :: compactChars x ++ ',' :: compactMembers xs

end

def compact (j : Json) : String := String.ofList (compactChars j)

mutual

def plainNumbers : Json → Json
  | float x => text (Layout.plain.write x)
  | list items => list (plainItems items)
  | record members => record (plainMembers members)
  | null => null
  | bool b => bool b
  | int n => int n
  | text s => text s
  | flaw kind => flaw kind

def plainItems : List Json → List Json
  | [] => []
  | x :: xs => plainNumbers x :: plainItems xs

def plainMembers : List (String × Json) → List (String × Json)
  | [] => []
  | (name, x) :: xs => (name, plainNumbers x) :: plainMembers xs

end

end Json

end Grimoire
