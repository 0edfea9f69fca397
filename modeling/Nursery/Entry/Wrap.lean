import Nursery.Entry.Token
import Nursery.Text.Quoted

/-!
# Entry points that bring their runtime along

An asynchronous entry point becomes an ordinary one: the word `async` goes, and the body is
replaced by a block that builds a runtime and blocks on the body it had.

* `Entry.wrap?` : the item with its body wrapped, if it has one.
* `Entry.block` : the block that takes the place of a body.
* `Entry.complaint` : the item that makes a compiler stop with a message.
-/

namespace Nursery

namespace Entry

/-- A path of identifiers, each with two colons in front. -/
def path (names : List String) : List Token :=
  names.flatMap fun name => [.word ":", .word ":", .word name]

/-- The call of a method with the given arguments. -/
def call (method : String) (arguments : List Token) : List Token :=
  [.word ".", .word method, .group .parenthesis arguments]

/-- The expression that builds the runtime, with a number of workers if one is given. -/
def builder (workers : Option Nat) : List Token :=
  path ["weft", "RuntimeBuilder", "new"] ++ [.group .parenthesis []] ++
    (match workers with
      | some n => call "worker_threads" [.word (toString n)]
      | none => []) ++
    call "build" [] ++
    call "expect" [.word (Text.quoted "failed to build weft runtime")]

/-- The block that builds a runtime and blocks on a body. -/
def block (workers : Option Nat) (body : List Token) : List Token :=
  [.word "let", .word "runtime", .word "="] ++ builder workers ++ [.word ";", .word "runtime"] ++
    call "block_on" [.word "async", .word "move", .group .brace body]

/-- The list without the first token that is the given word. -/
def eraseWord (text : String) : List Token → List Token
  | [] => []
  | token :: rest => if token.isWord text then rest else token :: eraseWord text rest

/-- The list with its last block replaced, if it has a block.  The new body is a block inside the
block that took the place of the old one. -/
def replaceLastBlock? (f : List Token → List Token) : List Token → Option (List Token)
  | [] => none
  | token :: rest =>
    match replaceLastBlock? f rest with
    | some rest => some (token :: rest)
    | none => if token.isBlock then some (.group .brace (f token.contents) :: rest) else none

/-- The item without the word `async` and with its body wrapped; an item without a body has no
wrapped form. -/
def wrap? (item : List Token) (workers : Option Nat) : Option (List Token) :=
  replaceLastBlock? (fun body => [.group .brace (block workers body)]) (eraseWord "async" item)

/-- The item that makes a compiler stop with a message. -/
def complaint (message : String) : List Token :=
  [.word "compile_error", .word "!", .group .parenthesis [.word (Text.quoted message)],
    .word ";"]

end Entry

end Nursery
