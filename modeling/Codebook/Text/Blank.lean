/-!
# Blank characters

The blank characters are the white space of every script together with the four separators
U+001C to U+001F. `strip` removes them from both ends of a text, and `words` are what is left
between runs of them.
-/

namespace Codebook.Text

/-- White space of any script, control separators included. -/
def isBlank (c : Char) : Bool :=
  let n := c.toNat
  (9 ≤ n && n ≤ 13) || (28 ≤ n && n ≤ 32) || n == 0x85 || n == 0xa0 || n == 0x1680 ||
    (0x2000 ≤ n && n ≤ 0x200a) || n == 0x2028 || n == 0x2029 || n == 0x202f || n == 0x205f ||
    n == 0x3000

/-- A text without the blanks at its start. -/
def stripStart (cs : List Char) : List Char :=
  cs.dropWhile isBlank

/-- A text without the blanks at its end. -/
def stripEnd (cs : List Char) : List Char :=
  (cs.reverse.dropWhile isBlank).reverse

/-- A text without the blanks at both ends. -/
def strip (cs : List Char) : List Char :=
  stripEnd (stripStart cs)

/-- The words of a text when the characters of `word`, last first, have been read of the next one.
-/
def wordsFrom (word : List Char) : List Char → List (List Char)
  | [] => if word.isEmpty then [] else [word.reverse]
  | c :: cs =>
    if isBlank c then
      if word.isEmpty then wordsFrom [] cs else word.reverse :: wordsFrom [] cs
    else wordsFrom (c :: word) cs

/-- The maximal runs of characters that are not blank, in order. -/
def words (cs : List Char) : List (List Char) :=
  wordsFrom [] cs

/-- `strip` on strings. -/
def trimmed (s : String) : String :=
  String.ofList (strip s.toList)

end Codebook.Text
