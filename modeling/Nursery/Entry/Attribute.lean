import Nursery.Text.Blank
import Nursery.Text.Whole

/-!
# The attribute of an entry point

An entry point may say how many workers its runtime gets: a list of options between commas, of
which only `worker_threads` exists.  Blanks around an option do not matter, empty options are
passed over, and the last count wins.

* `Attribute.options` : the options of an attribute's text.
* `Attribute.workers?` : the number of workers it asks for, or the first thing wrong with it.
-/

namespace Nursery

namespace Attribute

/-- What is wrong with an attribute. -/
inductive Error where
  /-- The option is not known. -/
  | unknownOption (option : String)
  /-- The number of workers is not a positive count. -/
  | notPositive (value : String)
deriving DecidableEq, Repr

/-- The wording of what is wrong. -/
def Error.message : Error → String
  | unknownOption option => "unknown weft runtime option `" ++ option ++ "`"
  | notPositive value => "`worker_threads` expects a positive integer, got `" ++ value ++ "`"

/-- The name of the only option. -/
def optionName : List Char :=
  "worker_threads".toList

/-- The parts of a text between commas. -/
def splitCommas : List Char → List (List Char)
  | [] => [[]]
  | ',' :: rest => [] :: splitCommas rest
  | c :: rest =>
    match splitCommas rest with
    | [] => [[c]]
    | part :: parts => (c :: part) :: parts

/-- The options of an attribute, trimmed, without the empty ones. -/
def options (text : List Char) : List (List Char) :=
  ((splitCommas text).map Text.trim).filter (· ≠ [])

/-- What remains of a text behind another, if it starts with that one. -/
def behind? : List Char → List Char → Option (List Char)
  | [], s => some s
  | c :: start, d :: s => if c = d then behind? start s else none
  | _ :: _, [] => none

/-- The text that stands for the value of an option, given what stands behind its name. -/
def valueText (s : List Char) : List Char :=
  Text.trim ((Text.trimStart s).dropWhile (· = '='))

/-- The number of workers that one option asks for. -/
def readOption (option : List Char) : Except Error Nat :=
  match behind? optionName option with
  | none => .error (.unknownOption (String.ofList option))
  | some rest =>
    match Text.readWhole? (valueText rest) with
    | some (n + 1) => .ok (n + 1)
    | _ => .error (.notPositive (String.ofList (valueText rest)))

/-- The number of workers that a list of options asks for, beginning with what was asked so far. -/
def readOptions (asked : Option Nat) : List (List Char) → Except Error (Option Nat)
  | [] => .ok asked
  | option :: rest =>
    match readOption option with
    | .ok n => readOptions (some n) rest
    | .error e => .error e

/-- The number of workers that an attribute asks for, if it asks for any. -/
def workers? (text : String) : Except Error (Option Nat) :=
  readOptions none (options text.toList)

end Attribute

end Nursery
