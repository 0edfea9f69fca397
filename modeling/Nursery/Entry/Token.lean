/-!
# Tokens of an item

An item of a program is a list of token trees: words (an identifier, a literal or one punctuation
character each) and groups between delimiters.

* `Token` : a token tree.
* `Token.flatten` : a list of token trees as the words one reads.
-/

namespace Nursery

/-- The delimiters of a group. -/
inductive Delimiter where
  /-- Round brackets. -/
  | parenthesis
  /-- Curly brackets. -/
  | brace
  /-- Square brackets. -/
  | bracket
  /-- Nothing that one could read: the tokens belong together. -/
  | invisible
deriving DecidableEq, Repr

namespace Delimiter

/-- The opening delimiter, if there is one to be read. -/
def opening? : Delimiter → Option String
  | parenthesis => some "("
  | brace => some "\x7b"
  | bracket => some "["
  | invisible => none

/-- The closing delimiter, if there is one to be read. -/
def closing? : Delimiter → Option String
  | parenthesis => some ")"
  | brace => some "\x7d"
  | bracket => some "]"
  | invisible => none

end Delimiter

/-- A token tree. -/
inductive Token where
  /-- An identifier, a literal or one punctuation character. -/
  | word (text : String)
  /-- Tokens between delimiters. -/
  | group (delimiter : Delimiter) (tokens : List Token)
deriving Inhabited

namespace Token

/-- The group is a block between curly brackets. -/
def isBlock : Token → Bool
  | group .brace _ => true
  | _ => false

/-- The token is the given word. -/
def isWord (text : String) : Token → Bool
  | word t => t = text
  | _ => false

/-- The tokens of a group; a word has none. -/
def contents : Token → List Token
  | word _ => []
  | group _ tokens => tokens

mutual

/-- The words of one token tree in reading order. -/
def words : Token → List String
  | word text => [text]
  | group delimiter tokens =>
    delimiter.opening?.toList ++ (flatten tokens ++ delimiter.closing?.toList)

/-- The words of a list of token trees in reading order. -/
def flatten : List Token → List String
  | [] => []
  | token :: rest => words token ++ flatten rest

end

end Token

end Nursery
