import Codebook.Text.NameTable
import Codebook.Text.Part

/-!
# Characters by their names

`characterNamed?` finds the character with a name of the character standard. Names in the tables, and
names that end in a number, may be written in small letters; the ideographs and syllables that are
named by rule may not.
-/

namespace Codebook.Text

/-! ## Names in tables -/

/-- The state of a search in a table of names: the code point and the words of the name that is being
read, last word first and each with its last letter first, and how much higher the next code point is,
once that is being read. -/
structure NameSearch where
  code : Nat
  words : List (List Char)
  ahead : Option Nat
  found : Option Nat

/-- A letter of a word that is being read; a blank starts the next word. -/
def addLetter (c : Char) : List (List Char) → List (List Char)
  | [] => [[c]]
  | w :: ws => if c == ' ' then [] :: w :: ws else (c :: w) :: ws

/-- The first `n` of some words that are given last word first. -/
def firstWords (n : Nat) (words : List (List Char)) : List (List Char) :=
  words.drop (words.length - n)

/-- The value of a digit up to `F`. -/
def hexDigit? (c : Char) : Option Nat :=
  if c.isDigit then some (c.toNat - 48)
  else if 'A' ≤ c && c ≤ 'F' then some (c.toNat - 55)
  else none

/-- The search after the name that was being read is complete. -/
def NameSearch.complete (target : List (List Char)) (s : NameSearch) : NameSearch :=
  if s.found.isNone && s.words == target then { s with found := some s.code } else s

/-- A word, last letter first, with the number at its end one higher. -/
def nextNumber : List Char → List Char
  | [] => ['1']
  | c :: cs =>
    if c == '9' then '0' :: nextNumber cs
    else if c.isDigit then Char.ofNat (c.toNat + 1) :: cs
    else '1' :: c :: cs

/-- A word, last letter first, that ends in a number and perhaps a letter, with the next number. -/
def nextNumbered : List Char → List Char
  | c :: cs => if c.isDigit then nextNumber (c :: cs) else nextNumber cs
  | [] => []

/-- A word, last letter first, that ends in a number and perhaps a letter, with the next letter. -/
def nextLettered : List Char → List Char
  | c :: cs => if c.isDigit then 'A' :: c :: cs else Char.ofNat (c.toNat + 1) :: cs
  | [] => []

/-- A word, last letter first, with `SMALL` for `CAPITAL`. -/
def smallForm (w : List Char) : List Char :=
  if w == "LATIPAC".toList then "LLAMS".toList else w

/-- A change to the last of some words that are given last word first. -/
def changeLast (f : List Char → List Char) : List (List Char) → List (List Char)
  | w :: ws => f w :: ws
  | [] => []

/-- The search at the start of a name, with the words that are known of it. -/
def NameSearch.start (target : List (List Char)) (s : NameSearch) (words : List (List Char)) :
    NameSearch :=
  { s.complete target with code := s.code + s.ahead.getD 1, words := words, ahead := none }

/-- The search after one more character of the table. -/
def NameSearch.step (target : List (List Char)) (s : NameSearch) (c : Char) : NameSearch :=
  if c == '\n' then s
  else if c == '=' then { s with ahead := some 0 }
  else if 'a' ≤ c && c ≤ 'z' then s.start target ([] :: firstWords (c.toNat - 97) s.words)
  else if c == '+' then s.start target (changeLast nextNumbered s.words)
  else if c == '*' then s.start target (changeLast nextLettered s.words)
  else if c == '/' then s.start target (s.words.map smallForm)
  else
    match s.ahead with
    | some n => { s with ahead := some (n * 16 + (hexDigit? c).getD 0) }
    | none => { s with words := addLetter c s.words }

/-- The words of a name as a search compares them. -/
def nameWords (name : List Char) : List (List Char) :=
  name.foldl (fun ws c => addLetter c ws) [[]]

/-- What becomes of `x` when `f` is given the numbers in a text one after another. -/
def foldNumbers {α : Type} (f : α → Nat → α) (x : α) (text : String) : α :=
  let step := fun (s : Option Nat × α) c =>
    if c == '\n' then s
    else
      let digit := pieceDigits.idxOf c
      match s.1 with
      | some first =>
        (none, f s.2 (shortNumbers + (first - shortNumbers) * pieceDigits.length + digit))
      | none => if digit < shortNumbers then (none, f s.2 digit) else (some digit, s.2)
  (text.toList.foldl step (none, x)).2

/-- The pieces that were read so far, with the first part of the last one, the number after that of
its second part, and the number that was read of the next one. -/
structure PieceReading where
  pieces : Array (List Char)
  first : Nat
  next : Nat
  ahead : Option Nat

/-- The reading after one more number. -/
def PieceReading.step (r : PieceReading) (n : Nat) : PieceReading :=
  match r.ahead with
  | none => { r with ahead := some n }
  | some k =>
    let first := (r.first + k) % r.pieces.size
    let second := if k == 0 then r.next + n else n
    ⟨r.pieces.push (r.pieces.getD first [] ++ r.pieces.getD second []), first, second + 1, none⟩

/-- All pieces in the order of their numbers. -/
def namePieces : Array (List Char) :=
  let letters := (letterPieces.map fun c => [c]).toArray
  (foldNumbers PieceReading.step ⟨letters, 0, 0, none⟩ pieceTable).pieces

/-- The code point of a name in the tables. -/
def lookUp? (name : List Char) : Option Nat :=
  let target := nameWords name
  let run := List.foldl (NameSearch.step target)
  let start : NameSearch := ⟨0, [], none, none⟩
  let names := foldNumbers (fun s n => run s (namePieces.getD n [])) start nameTable
  let aliases := run start aliasTable.toList
  (names.complete target).found.or (aliases.complete target).found

/-! ## Names by rule -/

/-- The number that digits write, if there are `least` to `most` of them and nothing else. -/
def digitsIn? (base least most : Nat) (cs : List Char) : Option Nat :=
  if least ≤ cs.length && cs.length ≤ most then
    cs.foldl (fun n c => do
      let d ← hexDigit? c
      if d < base then return (← n) * base + d else none) (some 0)
  else none

/-- The code points whose ideographs are named by their code point alone. -/
def ideographs : List (Nat × Nat) := [
  (0x3400, 0x4dbf), (0x4e00, 0x9fff), (0x20000, 0x2a6df), (0x2a700, 0x2b738),
  (0x2b740, 0x2b81d), (0x2b820, 0x2cea1), (0x2ceb0, 0x2ebe0), (0x30000, 0x3134a)]

/-- Series of names that end in their own code point: the start of the name and the code points. -/
def codeSeries : List (String × List (Nat × Nat)) := [
  ("CJK COMPATIBILITY IDEOGRAPH-",
    [(0xf900, 0xfa6d), (0xfa70, 0xfad9), (0x2f800, 0x2fa1d)]),
  ("KHITAN SMALL SCRIPT CHARACTER-", [(0x18b00, 0x18cd5)]),
  ("NUSHU CHARACTER-", [(0x1b170, 0x1b2fb)])]

/-- Series of names that end in a number: the start of the name, the number of digits, the first and
the last number, and the code point of the first. -/
def numberSeries : List (String × Nat × Nat × Nat × Nat) := [
  ("VARIATION SELECTOR-", 0, 1, 16, 0xfe00),
  ("VARIATION SELECTOR-", 0, 17, 256, 0xe0100),
  ("TANGUT COMPONENT-", 3, 1, 768, 0x18800)]

/-- What follows the start of a name. -/
def afterStart? (start : String) (name : List Char) : Option (List Char) :=
  if startsWith start.toList name then some (name.drop start.length) else none

/-- The code point that a name ends in. -/
def codeAtEnd? (start : String) (ranges : List (Nat × Nat)) (name : List Char) : Option Nat := do
  let n ← digitsIn? 16 4 5 (← afterStart? start name)
  if ranges.any fun r => r.1 ≤ n && n ≤ r.2 then
    if (← afterStart? start name).head? == some '0' then none else return n
  else none

/-- The code point of a name that ends in a number. -/
def numbered? (name : List Char) : Option Nat :=
  numberSeries.findSome? fun (start, width, first, last, code) => do
    let digits ← afterStart? start name
    let n ← digitsIn? 10 1 3 digits
    let padded := if width == 0 then digits.head? != some '0' else digits.length == width
    if padded && first ≤ n && n ≤ last then return code + (n - first) else none

/-- The sounds that syllables start with, in order. -/
def leadSounds : List String :=
  ["G", "GG", "N", "D", "DD", "R", "M", "B", "BB", "S", "SS", "", "J", "JJ", "C", "K", "T", "P", "H"]

/-- The vowels of syllables, in order. -/
def vowelSounds : List String :=
  ["A", "AE", "YA", "YAE", "EO", "E", "YEO", "YE", "O", "WA", "WAE", "OE", "YO", "U", "WEO", "WE",
    "WI", "YU", "EU", "YI", "I"]

/-- The sounds that syllables end with, in order. -/
def tailSounds : List String :=
  ["", "G", "GG", "GS", "N", "NJ", "NH", "D", "L", "LG", "LM", "LB", "LS", "LT", "LP", "LH", "M",
    "B", "BS", "S", "SS", "NG", "J", "C", "K", "T", "P", "H"]

/-- The longest sound at the start of a text: its place among the sounds and what follows it. -/
def cutSound? (sounds : List String) (cs : List Char) : Option (Nat × List Char) :=
  let hits := sounds.zipIdx.filter fun s => startsWith s.1.toList cs
  let longest := hits.foldl (fun best s =>
    match best with
    | some (b : String × Nat) => if b.1.length < s.1.length then some s else some b
    | none => some s) none
  longest.map fun s => (s.2, cs.drop s.1.length)

/-- The syllable that is spelt by its sounds. -/
def syllable? (cs : List Char) : Option Nat := do
  let (lead, cs) ← cutSound? leadSounds cs
  let (vowel, cs) ← cutSound? vowelSounds cs
  let (tail, cs) ← cutSound? tailSounds cs
  if cs.isEmpty then return 0xac00 + (lead * 21 + vowel) * 28 + tail else none

/-! ## All names -/

/-- The character with a name. -/
def characterNamed? (name : List Char) : Option Nat :=
  match afterStart? "HANGUL SYLLABLE " name, afterStart? "CJK UNIFIED IDEOGRAPH-" name with
  | some sounds, _ => syllable? sounds
  | none, some digits =>
    (digitsIn? 16 4 5 digits).bind fun n =>
      if ideographs.any fun r => r.1 ≤ n && n ≤ r.2 then some n else none
  | none, none =>
    let name := name.map Char.toUpper
    (lookUp? name).or
      ((codeSeries.findSome? fun s => codeAtEnd? s.1 s.2 name).or (numbered? name))

end Codebook.Text
