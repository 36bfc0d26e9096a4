import Codebook.Text.Printable

/-!
# Quoted text

The literal that stands for a text or a string of bytes. Single quotes are used unless the text
holds a single quote and no double quote; what is not printable is written by its code in
hexadecimal.

Half of a character, which an escape can name alone, is kept in a text as one of the characters from
U+E0800 to U+E0FFF, none of which has a meaning, and is quoted by its own code. So these characters
cannot be told from halves. All that asks `half?` takes them for halves: a source text that holds one
is not parsed (`Source.parse`), a text that holds one is not encoded (`encode?`, and with it
`Disk.write`), and it is written in JSON by the code of the half. A text in which no half can stand
may be given to the JSON writer to be read as `Reading.whole`, so that every character is meant.
-/

namespace Codebook.Text

/-- A lower-case hexadecimal digit. -/
def hexDigit (n : Nat) : Char :=
  if n < 10 then Char.ofNat (48 + n) else Char.ofNat (87 + n)

/-- `n` in hexadecimal with exactly `width` digits. -/
def hex : (width : Nat) → Nat → List Char
  | 0, _ => []
  | w + 1, n => hex w (n / 16) ++ [hexDigit (n % 16)]

/-- Where the characters start, none of which has a meaning, that stand for halves of characters. -/
def halfBase : Nat := 0xe0800

/-- The character with a code; a half of a character is kept as one without a meaning. -/
def ofCode (n : Nat) : Char :=
  if 0xd800 ≤ n && n < 0xe000 then Char.ofNat (halfBase + (n - 0xd800)) else Char.ofNat n

/-- The code of the half that a character stands for. -/
def half? (c : Char) : Option Nat :=
  if halfBase ≤ c.toNat && c.toNat < halfBase + 0x800 then some (0xd800 + (c.toNat - halfBase))
  else none

/-- How the characters of a text are meant: each as itself, or with some of them for halves. -/
inductive Reading
  | whole
  | halves
  deriving DecidableEq, Repr

/-- The code of the half that a character stands for in a text that is read in the given way. -/
def Reading.half? : Reading → Char → Option Nat
  | .whole, _ => none
  | .halves, c => Text.half? c

/-- Double quotes are used for a text that holds single quotes and no double ones. -/
def quoteFor (cs : List Char) : Char :=
  if cs.contains '\x27' && !cs.contains '"' then '"' else '\x27'

/-- One character of quoted text. -/
def quoteChar (quote c : Char) : List Char :=
  if c == quote || c == '\\' then ['\\', c]
  else if c == '\t' then ['\\', 't']
  else if c == '\n' then ['\\', 'n']
  else if c == '\r' then ['\\', 'r']
  else if isPrintable c then [c]
  else if let some h := half? c then '\\' :: 'u' :: hex 4 h
  else if c.toNat ≤ 0xff then '\\' :: 'x' :: hex 2 c.toNat
  else if c.toNat ≤ 0xffff then '\\' :: 'u' :: hex 4 c.toNat
  else '\\' :: 'U' :: hex 8 c.toNat

/-- The literal of a text. -/
def quoted (s : String) : String :=
  let q := quoteFor s.toList
  String.ofList (q :: s.toList.flatMap (quoteChar q) ++ [q])

/-- One byte of a quoted string of bytes: only printable ASCII stands for itself. -/
def quoteByte (quote : Char) (b : UInt8) : List Char :=
  if b.toNat < 128 then quoteChar quote (Char.ofNat b.toNat) else '\\' :: 'x' :: hex 2 b.toNat

/-- The literal of a string of bytes. -/
def quotedBytes (bs : List UInt8) : String :=
  let q := quoteFor (bs.map fun b => Char.ofNat b.toNat)
  String.ofList ('b' :: q :: bs.flatMap (quoteByte q) ++ [q])

end Codebook.Text
