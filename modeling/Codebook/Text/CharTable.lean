/-!
# Tables of characters

A property of characters that no short rule gives is kept as a table of code point intervals, both
ends included. The tables of this project list the characters from U+0080 on; the ASCII part of each
property is written out where the property is defined.

A table is written as numbers, two for each interval: how many code points stand between the interval
before and this one, and how many it has after its first. The last digit of a number is one of the 44
characters from `0` to `[`, in the order of their codes; the digits before it are small letters. Line
ends mean nothing.
-/

namespace Codebook.Text

/-- A set of characters, as intervals of code points with both ends included. -/
abbrev CharTable := Array (Nat × Nat)

namespace CharTable

/-- A character is in a table if its code point lies in one of the intervals. -/
def contains (t : CharTable) (c : Char) : Bool :=
  t.any fun r => r.1 ≤ c.toNat && c.toNat ≤ r.2

/-- The numbers that digits write. `high` is what those of the first number stand for that have been
read already. -/
def numbersFrom (high : Nat) : List Char → List Nat
  | [] => []
  | c :: cs =>
    if c.isLower then numbersFrom (high * 26 + (c.toNat - 97)) cs
    else (high * 44 + (c.toNat - 48)) :: numbersFrom 0 cs

/-- The intervals that numbers write, where `next` is the first code point that is still open. -/
def intervalsFrom (next : Nat) : List Nat → List (Nat × Nat)
  | skipped :: more :: ns =>
    (next + skipped, next + skipped + more) :: intervalsFrom (next + skipped + more + 1) ns
  | _ => []

/-- The table that a text writes. -/
def ofLengths (text : String) : CharTable :=
  (intervalsFrom 128 (numbersFrom 0 (text.toList.filter (· != '\n')))).toArray

end CharTable

end Codebook.Text
