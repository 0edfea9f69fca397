import Nursery.Text.Extending

/-!
# Quoted text

Text inside a description stands between double quotation marks, with a backslash in front of
the quotation mark and the backslash, the usual short forms for the tab, the two line ends and
the null character, and a code point in hexadecimal for every character that a reader could not
see or that would be drawn onto its neighbour.

* `quoted` : the written form of a text.
* `escapeChar` : the written form of one character inside quotation marks.
-/

namespace Nursery

namespace Text

/-- The lower-case hexadecimal digits of a number, without leading zeros. -/
def hexDigits (n : Nat) : List Char :=
  Nat.toDigits 16 n

/-- A code point in hexadecimal between braces. -/
def escapeCode (c : Char) : List Char :=
  '\\' :: 'u' :: '{' :: hexDigits c.toNat ++ ['}']

/-- The written form of one character inside quotation marks. -/
def escapeChar (c : Char) : List Char :=
  if c = '\x00' then ['\\', '0']
  else if c = '\t' then ['\\', 't']
  else if c = '\r' then ['\\', 'r']
  else if c = '\n' then ['\\', 'n']
  else if c = '\\' then ['\\', '\\']
  else if c = '"' then ['\\', '"']
  else if isExtending c || !isGraphic c then escapeCode c
  else [c]

/-- A text between quotation marks, every character in its written form. -/
def quoted (s : String) : String :=
  String.ofList ('"' :: (s.toList.flatMap escapeChar ++ ['"']))

end Text

end Nursery
