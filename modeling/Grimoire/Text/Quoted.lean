import Grimoire.Text.Printable

/-! # Quoted text in messages

Messages quote a text, or a single character, so that the reader can tell what it is made of: the
quote itself, the backslash and the usual control characters are written as two characters, other
characters that are not printable by their number, and everything else as it is.
-/

namespace Grimoire

namespace Quoted

def numbered (c : Char) : List Char :=
  ['\\', 'u', '\x7b'] ++ Nat.toDigits 16 c.toNat ++ ['\x7d']

def escape (quote c : Char) : List Char :=
  if c = '\x00' then ['\\', '0']
  else if c = '\t' then ['\\', 't']
  else if c = '\r' then ['\\', 'r']
  else if c = '\n' then ['\\', 'n']
  else if c = '\\' then ['\\', '\\']
  else if c = quote then ['\\', c]
  else if Printable.isPrintable c then [c]
  else numbered c

def text (s : String) : String :=
  String.ofList ('"' :: s.toList.flatMap (escape '"') ++ ['"'])

def char (c : Char) : String :=
  String.ofList ('\x27' :: escape '\x27' c ++ ['\x27'])

end Quoted

end Grimoire
