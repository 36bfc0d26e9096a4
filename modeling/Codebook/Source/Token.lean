import Codebook.Source.Basic

/-!
# Tokens

A source text is a sequence of tokens. Where the characters make no token, the sequence ends with a
fault, so that a reader that stops before it never notices.
-/

namespace Codebook.Source

/-- Why characters make no token. The first three concern the indentation of a line. -/
inductive LexFault
  | tabs
  | dedent
  | tooDeep
  | continuation
  | endOfText
  | malformed
  deriving DecidableEq, Repr

/-- A string as written: what the letters before it say, whether they are a small `u` alone, and the
characters between the quotes. -/
structure StringLiteral where
  raw : Bool
  bytes : Bool
  formatted : Bool
  marked : Bool
  body : List Char
  deriving DecidableEq, Repr

/-- A token. A name is kept as it is written, and of a decimal number with more digits than can be
read only that it stands here. -/
inductive Token
  | name (s : String)
  | keyword (s : String)
  | number (n : Number)
  | longNumber
  | string (s : StringLiteral)
  | op (s : String)
  | newline
  | indent
  | dedent
  | stop
  | fault (f : LexFault)
  deriving DecidableEq, Repr

/-- The words that cannot be names. -/
def keywords : List String :=
  ["False", "None", "True", "and", "as", "assert", "async", "await", "break", "class", "continue",
    "def", "del", "elif", "else", "except", "finally", "for", "from", "global", "if", "import",
    "in", "is", "lambda", "nonlocal", "not", "or", "pass", "raise", "return", "try", "while",
    "with", "yield"]

/-- A word as a name or a keyword. -/
def Token.word (s : String) : Token :=
  if keywords.contains s then .keyword s else .name s

end Codebook.Source
