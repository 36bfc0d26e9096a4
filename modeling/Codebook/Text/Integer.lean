import Codebook.Text.Blank
import Codebook.Text.Word

/-!
# Whole numbers in text

`integer?` reads a whole number as people write it: with blanks around it, with a sign, in the
digits of any script, and with single underscores between digits. A number of more digits than
`digitLimit` is refused.
-/

namespace Codebook.Text

/-- The value of a decimal digit of any script. The digits of a script follow each other from its
zero on. -/
def decimalValue? (c : Char) : Option Nat :=
  if c.isDigit then some (c.toNat - 48)
  else if c.toNat < 128 then none
  else
    (decimalDigit.find? fun r => r.1 ≤ c.toNat && c.toNat ≤ r.2).map fun r =>
      (c.toNat - r.1) % 10

/-- The digits of a number, without the underscores between them. -/
def digitValues? : List Char → Option (List Nat)
  | [] => none
  | [c] => (decimalValue? c).map ([·])
  | c :: '_' :: d :: cs => do return (← decimalValue? c) :: (← digitValues? (d :: cs))
  | c :: cs => do return (← decimalValue? c) :: (← digitValues? cs)

/-- The number of digits that a number can have in text. -/
def digitLimit : Nat := 4300

/-- The number that digits write. -/
def ofDigits (ds : List Nat) : Nat :=
  ds.foldl (fun n d => n * 10 + d) 0

/-- Blanks that may stand around a number: all but the four separators of ASCII. -/
def isNumberBlank (c : Char) : Bool :=
  isBlank c && !(0x1c ≤ c.toNat && c.toNat ≤ 0x1f)

/-- The whole number that a text writes. -/
def integer? (cs : List Char) : Option Int := do
  let trimmed := ((cs.dropWhile isNumberBlank).reverse.dropWhile isNumberBlank).reverse
  let (negative, cs) := match trimmed with
    | '-' :: cs => (true, cs)
    | '+' :: cs => (false, cs)
    | cs => (false, cs)
  let ds ← digitValues? cs
  if digitLimit < ds.length then none
  else return if negative then -(Int.ofNat (ofDigits ds)) else Int.ofNat (ofDigits ds)

end Codebook.Text
