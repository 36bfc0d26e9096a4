/-!
# Lines

Three notions of a line end. `lines` knows every line boundary of the character standard and drops
the boundaries; `unifyNewlines` writes carriage returns as line feeds, as reading a text file does;
`split` cuts at one given character and keeps the empty pieces.
-/

namespace Codebook.Text

/-- The characters that end a line. A carriage return followed by a line feed is one boundary. -/
def isLineBoundary (c : Char) : Bool :=
  let n := c.toNat
  (10 ≤ n && n ≤ 13) || (28 ≤ n && n ≤ 30) || n == 0x85 || n == 0x2028 || n == 0x2029

/-- The lines of a text when the characters of `line`, last first, have been read of the next
one. -/
def linesFrom (line : List Char) : List Char → List (List Char)
  | [] => if line.isEmpty then [] else [line.reverse]
  | '\r' :: '\n' :: cs => line.reverse :: linesFrom [] cs
  | c :: cs =>
    if isLineBoundary c then line.reverse :: linesFrom [] cs else linesFrom (c :: line) cs

/-- The lines of a text without their boundaries. A boundary at the very end opens no new line. -/
def lines (cs : List Char) : List (List Char) :=
  linesFrom [] cs

/-- Every carriage return, alone or before a line feed, becomes one line feed. -/
def unifyNewlines : List Char → List Char
  | [] => []
  | '\r' :: '\n' :: cs => '\n' :: unifyNewlines cs
  | '\r' :: cs => '\n' :: unifyNewlines cs
  | c :: cs => c :: unifyNewlines cs

/-- The pieces of a text between the occurrences of `sep`; there is always at least one. -/
def split (sep : Char) : List Char → List (List Char)
  | [] => [[]]
  | c :: cs =>
    if c == sep then [] :: split sep cs
    else
      match split sep cs with
      | [] => [[c]]
      | p :: ps => (c :: p) :: ps

/-- The parts of a dotted name. -/
def dottedParts (name : String) : List String :=
  (split '.' name.toList).map String.ofList

/-- The pieces joined with `sep` between them. -/
def join (sep : List Char) : List (List Char) → List Char
  | [] => []
  | [p] => p
  | p :: ps => p ++ sep ++ join sep ps

/-- The text with the line feed that ends it, if it has one, kept on each line: the lines of a text
file as a reader sees them one after another. -/
def keptLines (line : List Char) : List Char → List (List Char)
  | [] => if line.isEmpty then [] else [line.reverse]
  | '\n' :: cs => ('\n' :: line).reverse :: keptLines [] cs
  | c :: cs => keptLines (c :: line) cs

end Codebook.Text
