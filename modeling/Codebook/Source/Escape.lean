import Codebook.Source.Lexer
import Codebook.Text.CharacterName
import Codebook.Text.Quoted

/-!
# What strings stand for

The characters or bytes that the body of a string literal stands for. A backslash before a character
that has no meaning of its own stays in the text; only an escape that starts well and ends badly is
an error.
-/

namespace Codebook.Source

open Text

/-- The control characters that single letters stand for after a backslash, and the characters that
stand for themselves. -/
def simpleEscape? : Char → Option Char
  | '\\' => some '\\'
  | '\x27' => some '\x27'
  | '"' => some '"'
  | 'a' => some '\x07'
  | 'b' => some '\x08'
  | 'f' => some '\x0c'
  | 'n' => some '\n'
  | 'r' => some '\r'
  | 't' => some '\t'
  | 'v' => some '\x0b'
  | _ => none

/-- Octal digits. -/
def isOctalDigit (c : Char) : Bool :=
  '0' ≤ c && c ≤ '7'

/-- The code that exactly `n` hexadecimal digits at the start of a text write. -/
def hexCode? (n : Nat) (cs : List Char) : Option Nat :=
  let digits := cs.take n
  if digits.length == n && digits.all (isDigitOf 16) then some (valueOf 16 digits) else none

/-- An escape by code: the code and the number of characters after the backslash that it takes.
`none` if the escape is malformed. -/
def codeEscape? (c : Char) (cs : List Char) : Option (Nat × Nat) :=
  let digits :=
    if c == 'x' then 2 else if c == 'u' then 4 else 8
  (hexCode? digits cs).bind fun n => if n ≤ 0x10ffff then some (n, digits + 1) else none

/-- The octal escape at the start of a text, of at most three digits. -/
def octalEscape (cs : List Char) : Nat × Nat :=
  let digits := (cs.take 3).takeWhile isOctalDigit
  (valueOf 8 digits, digits.length)

/-- The characters of a text after the first `skip`, which belong to an escape already read. -/
def unescapeFrom (skip : Nat) : List Char → Option (List Char)
  | [] => some []
  | c :: cs =>
    match skip with
    | skip + 1 => unescapeFrom skip cs
    | 0 =>
      if c != '\\' then (unescapeFrom 0 cs).map (c :: ·)
      else
        match cs with
        | [] => some ['\\']
        | '\n' :: _ => unescapeFrom 1 cs
        | 'N' :: '\x7b' :: rest =>
          let name := rest.takeWhile (· != '\x7d')
          if name.length == rest.length then none
          else
            (characterNamed? name).bind fun n =>
              (unescapeFrom (name.length + 3) cs).map (ofCode n :: ·)
        | 'N' :: _ => none
        | d :: rest =>
          match simpleEscape? d with
          | some e => (unescapeFrom 1 cs).map (e :: ·)
          | none =>
            if isOctalDigit d then
              let (n, len) := octalEscape cs
              (unescapeFrom len cs).map (ofCode n :: ·)
            else if d == 'x' || d == 'u' || d == 'U' then
              (codeEscape? d rest).bind fun (n, len) =>
                (unescapeFrom len cs).map (ofCode n :: ·)
            else (unescapeFrom 0 cs).map ('\\' :: ·)

/-- The text that the body of a string stands for. -/
def unescape (cs : List Char) : Option (List Char) :=
  unescapeFrom 0 cs

/-- The bytes of a text after the first `skip` characters, which belong to an escape already
read. -/
def unescapeBytesFrom (skip : Nat) : List Char → Option (List UInt8)
  | [] => some []
  | c :: cs =>
    match skip with
    | skip + 1 => unescapeBytesFrom skip cs
    | 0 =>
      if c != '\\' then (unescapeBytesFrom 0 cs).map (UInt8.ofNat c.toNat :: ·)
      else
        match cs with
        | [] => none
        | '\n' :: _ => unescapeBytesFrom 1 cs
        | d :: rest =>
          match simpleEscape? d with
          | some e => (unescapeBytesFrom 1 cs).map (UInt8.ofNat e.toNat :: ·)
          | none =>
            if isOctalDigit d then
              let (n, len) := octalEscape cs
              (unescapeBytesFrom len cs).map (UInt8.ofNat n :: ·)
            else if d == 'x' then
              (hexCode? 2 rest).bind fun n =>
                (unescapeBytesFrom 3 cs).map (UInt8.ofNat n :: ·)
            else (unescapeBytesFrom 0 cs).map (92 :: ·)

/-- The bytes that the body of a string of bytes stands for; only ASCII characters may stand in
it. -/
def unescapeBytes (raw : Bool) (cs : List Char) : Option (List UInt8) :=
  if cs.any (128 ≤ ·.toNat) then none
  else if raw then some (cs.map fun c => UInt8.ofNat c.toNat)
  else unescapeBytesFrom 0 cs

end Codebook.Source
