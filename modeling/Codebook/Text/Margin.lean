import Codebook.Text.Blank
import Codebook.Text.Lines

/-!
# Margins

A docstring is written indented with the code around it. `dedent` takes that indentation away: tabs
become spaces, the first line loses its own indentation, the others the smallest one among them, and
the empty lines at both ends go.
-/

namespace Codebook.Text

/-- Tabs become spaces up to the next multiple of eight columns; `col` is the current column. -/
def expandTabs (col : Nat) : List Char → List Char
  | [] => []
  | '\t' :: cs => List.replicate (8 - col % 8) ' ' ++ expandTabs (col + (8 - col % 8)) cs
  | c :: cs => c :: expandTabs (if c == '\n' || c == '\r' then 0 else col + 1) cs

/-- The indentation of a line, unless it is blank. -/
def indentation? (line : List Char) : Option Nat :=
  let content := stripStart line
  if content.isEmpty then none else some (line.length - content.length)

/-- The smallest indentation of the lines that are not blank. -/
def margin? (ls : List (List Char)) : Option Nat :=
  (ls.filterMap indentation?).min?

/-- A list of lines without the empty ones at both ends. -/
def trimEmpty (ls : List (List Char)) : List (List Char) :=
  ((ls.dropWhile List.isEmpty).reverse.dropWhile List.isEmpty).reverse

/-- The lines of an indented text without their common margin. -/
def dedentLines : List (List Char) → List (List Char)
  | [] => []
  | first :: rest =>
    let rest :=
      match margin? rest with
      | some m => rest.map (List.drop m)
      | none => rest
    trimEmpty (stripStart first :: rest)

/-- The text of a docstring without the indentation of the code around it. -/
def dedent (s : String) : String :=
  String.ofList (join ['\n'] (dedentLines (split '\n' (expandTabs 0 s.toList))))

end Codebook.Text
