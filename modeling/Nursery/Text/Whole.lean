/-!
# Whole numbers in text

A count is written in ASCII digits, with at most one plus sign in front, and has to fit a machine
word.

* `readWhole?` : the number that a text stands for, if it is one.
-/

namespace Nursery

namespace Text

/-- The largest count is one below this. -/
def wordSize : Nat := Nat.pow 2 64

/-- The value of a digit. -/
def digit? (c : Char) : Option Nat :=
  if '0' ≤ c ∧ c ≤ '9' then some (c.toNat - '0'.toNat) else none

/-- The number whose decimal digits follow those already read. -/
def readDigits? (read : Nat) : List Char → Option Nat
  | [] => some read
  | c :: rest =>
    match digit? c with
    | some d => readDigits? (10 * read + d) rest
    | none => none

/-- The text without a plus sign in front, if it has one. -/
def dropPlus : List Char → List Char
  | '+' :: rest => rest
  | s => s

/-- The count that a text stands for: at least one digit, at most one plus sign in front of them,
and a value that fits a machine word. -/
def readWhole? (s : List Char) : Option Nat :=
  match dropPlus s with
  | [] => none
  | digits => (readDigits? 0 digits).filter (· < wordSize)

end Text

end Nursery
