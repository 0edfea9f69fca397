/-!
# Blank characters

Text from the environment and from attributes is trimmed of blanks before it is read.  Blank is
every character with the property `White_Space` of Unicode: the ASCII blanks with the vertical
tab and the form feed, the next-line character, the no-break spaces, the typographic spaces and
the line and paragraph separators.

* `isBlank` : the character is blank.
* `trimStart`, `trimEnd`, `trim` : a text without its outer blanks.
-/

namespace Nursery

namespace Text

/-- The blank code points, as closed ranges in increasing order. -/
def blankRanges : List (Nat × Nat) :=
  [(0x9, 0xd), (0x20, 0x20), (0x85, 0x85), (0xa0, 0xa0), (0x1680, 0x1680), (0x2000, 0x200a),
   (0x2028, 0x2029), (0x202f, 0x202f), (0x205f, 0x205f), (0x3000, 0x3000)]

/-- A character that is trimmed from the ends of a text. -/
def isBlank (c : Char) : Bool :=
  blankRanges.any fun r => r.1 ≤ c.toNat && c.toNat ≤ r.2

/-- A text without the blanks in front. -/
def trimStart (s : List Char) : List Char :=
  s.dropWhile isBlank

/-- A text without the blanks at its end. -/
def trimEnd (s : List Char) : List Char :=
  (s.reverse.dropWhile isBlank).reverse

/-- A text without the blanks at either end. -/
def trim (s : List Char) : List Char :=
  trimEnd (trimStart s)

end Text

end Nursery
