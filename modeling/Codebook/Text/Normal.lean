import Codebook.Text.CharacterName
import Codebook.Text.DecompositionTable

/-!
# One form for all spellings of a name

Names that look alike can be written with different characters: wide and narrow forms, ligatures,
letters with marks in one character or in several. `normal` gives the form that stands for all of
them: characters are taken apart, marks are put in order, and letters and marks are put together
again.
-/

namespace Codebook.Text

/-! ## Tables -/

/-- What a range of characters decomposes into, and whether the two parts compose again. A range of
more than one character goes with the range that starts with the one given. -/
structure Decomposition where
  first : Nat
  last : Nat
  parts : List Nat
  composes : Bool
  deriving DecidableEq, Repr

/-- The numbers that digits write one after the other. -/
def tableNumbers : List Nat → List Nat
  | a :: b :: digits =>
    if a < 48 then (a * 85 + b) :: tableNumbers digits
    else
      match digits with
      | c :: digits => (4080 + ((a - 48) * 85 + b) * 85 + c) :: tableNumbers digits
      | [] => []
  | _ => []

/-- The signs of a table, each with the numbers after it. -/
def tableGroups (table : String) : List (Char × List Nat) :=
  ((table.toList.filter (· != '\n')).foldr (fun c (digits, groups) =>
    if ['-', '/', '\'', ';', '\x60'].contains c then ([], (c, tableNumbers digits) :: groups)
    else (tableDigits.idxOf c :: digits, groups)) ([], [])).2

/-- Numbers two by two. -/
def twoByTwo : List Nat → List (List Nat)
  | a :: b :: ns => [a, b] :: twoByTwo ns
  | _ => []

/-- The entries after a sign, those that compose with a slash. -/
def groupEntries : Char × List Nat → List (Char × List Nat)
  | ('/', ns) => (twoByTwo ns).map ('/', ·)
  | ('\'', ns) => (twoByTwo ns).flatMap fun ps => [('/', ps), ('/', ps.modifyHead (· + 32))]
  | (';', ns) => ns.map (';', [·])
  | group => [group]

/-- What some entries say, the first of them for the character `next` and `more` after it unless a range
stands before it. -/
def decompositionsFrom (next more : Nat) : List (Char × List Nat) → List Decomposition
  | [] => []
  | ('-', ns) :: entries => decompositionsFrom (next + ns.headD 0) (ns.getD 1 0) entries
  | (sign, parts) :: entries =>
    ⟨next, next + more, parts, sign == '/'⟩ :: decompositionsFrom (next + more + 1) 0 entries

/-- What a table says. -/
def decompositionsIn (table : String) : List Decomposition :=
  decompositionsFrom 0 0 ((tableGroups table).flatMap groupEntries)

/-- All decompositions. -/
def decompositions : List Decomposition := decompositionsIn decompositionTable

/-- The marks with their combining classes. -/
def marks : List ((Nat × Nat) × Nat) :=
  (decompositionsIn markTable).map fun d => ((d.first, d.last), d.parts.headD 0)

/-- The combining class of a character; letters have none. -/
def combiningClass (n : Nat) : Nat :=
  ((marks.find? fun m => m.1.1 ≤ n && n ≤ m.1.2).map (·.2)).getD 0

/-! ## Taking characters apart -/

/-- The parts of a syllable that is composed of sounds. -/
def syllableParts (n : Nat) : List Nat :=
  let i := n - 0xac00
  let tail := i % 28
  [0x1100 + i / 588, 0x1161 + i % 588 / 28] ++ if tail == 0 then [] else [0x11a7 + tail]

/-- The parts of a character in one step. -/
def parts? (n : Nat) : Option (List Nat) :=
  if 0xac00 ≤ n && n ≤ 0xd7a3 then some (syllableParts n)
  else
    (decompositions.find? fun d => d.first ≤ n && n ≤ d.last).map fun d =>
      match d.parts with
      | [p] => [p + (n - d.first)]
      | ps => ps

/-- The number of steps in which every character is taken apart. -/
def partSteps : Nat := 8

/-- The last parts of a character. -/
def decompose : (steps : Nat) → Nat → List Nat
  | 0, n => [n]
  | steps + 1, n =>
    match parts? n with
    | some ps => ps.flatMap (decompose steps)
    | none => [n]

/-! ## Order of marks -/

/-- A mark put in its place among characters that are given last first: before those of a higher
class that directly precede it. -/
def placeMark (cls n : Nat) : List (Nat × Nat) → List (Nat × Nat)
  | [] => [(cls, n)]
  | (k, m) :: rest =>
    if cls < k then (k, m) :: placeMark cls n rest else (cls, n) :: (k, m) :: rest

/-- Characters with their classes, the marks after each letter in order. -/
def ordered (ns : List Nat) : List (Nat × Nat) :=
  (ns.foldl (fun out n =>
    let cls := combiningClass n
    if cls == 0 then (0, n) :: out else placeMark cls n out) []).reverse

/-! ## Putting characters together -/

/-- The syllable that two sounds, or a syllable and a sound, make. -/
def joinSounds? (a b : Nat) : Option Nat :=
  if 0x1100 ≤ a && a ≤ 0x1112 && 0x1161 ≤ b && b ≤ 0x1175 then
    some (0xac00 + ((a - 0x1100) * 21 + (b - 0x1161)) * 28)
  else if 0xac00 ≤ a && a ≤ 0xd7a3 && (a - 0xac00) % 28 == 0 && 0x11a8 ≤ b && b ≤ 0x11c2 then
    some (a + (b - 0x11a7))
  else none

/-- The character that two characters compose. -/
def joined? (a b : Nat) : Option Nat :=
  (joinSounds? a b).or
    ((decompositions.find? fun d => d.composes && d.parts == [a, b]).map (·.first))

/-- The characters from the letter `letter` on, with the marks `between` after it, last first, that
it could not be joined with. A character is joined with the letter unless a mark of its own class or
a higher one stands between them. -/
def composeFrom (letter : Nat) (between : List (Nat × Nat)) : List (Nat × Nat) → List Nat
  | [] => letter :: (between.map (·.2)).reverse
  | (cls, n) :: rest =>
    let free := match between with
      | [] => true
      | (k, _) :: _ => k < cls
    match if free then joined? letter n else none with
    | some x => composeFrom x between rest
    | none =>
      if cls == 0 then letter :: (between.map (·.2)).reverse ++ composeFrom n [] rest
      else composeFrom letter ((cls, n) :: between) rest

/-- Ordered characters put together; marks before the first letter stay as they are. -/
def compose : List (Nat × Nat) → List Nat
  | [] => []
  | (0, n) :: rest => composeFrom n [] rest
  | (_, n) :: rest => n :: compose rest

/-- The form that stands for all spellings of a name. -/
def normal (s : String) : String :=
  if s.toList.all fun c => c.toNat < 128 then s
  else
    let ns := s.toList.flatMap fun c => decompose partSteps c.toNat
    String.ofList ((compose (ordered ns)).map Char.ofNat)

end Codebook.Text
