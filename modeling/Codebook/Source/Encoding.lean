import Codebook.Source.Escape
import Codebook.Text.Charset
import Codebook.Text.Lines

/-!
# How a source file is written in bytes

A source file that is run may say in a comment on one of its first two lines which charset its bytes
are written in, and may start with a mark of the order of bytes. Without either it is UTF-8.
-/

namespace Codebook.Source

open Text

/-! ## The name of the charset -/

/-- The characters of a charset's name. -/
def isCharsetChar (c : Char) : Bool :=
  c.isAlphanum || c == '-' || c == '_' || c == '.'

/-- The name after `coding:` or `coding=`, wherever it stands. -/
def codingIn? : List Char → Option String
  | [] => none
  | c :: cs =>
    match c :: cs with
    | 'c' :: 'o' :: 'd' :: 'i' :: 'n' :: 'g' :: d :: rest =>
      let name := (rest.dropWhile fun c => c == ' ' || c == '\t').takeWhile isCharsetChar
      if (d == ':' || d == '=') && !name.isEmpty then some (String.ofList name) else codingIn? cs
    | _ => codingIn? cs

/-- The charset that a line names in a comment. -/
def lineCharset? (line : List Char) : Option String :=
  match line.dropWhile fun c => c == ' ' || c == '\t' || c == '\x0c' with
  | '#' :: rest => codingIn? rest
  | _ => none

/-- The line has nothing but blanks and a comment. -/
def isQuiet (line : List Char) : Bool :=
  match line.dropWhile fun c => c == ' ' || c == '\t' || c == '\x0c' with
  | [] => true
  | c :: _ => c == '#'

/-- The charset that a text names. -/
def namedCharset? (cs : List Char) : Option String :=
  match split '\n' cs with
  | [] => none
  | first :: rest =>
    match lineCharset? first with
    | some e => some e
    | none => if isQuiet first then rest.head?.bind lineCharset? else none

/-- The two charsets of whose names only the beginning counts, with its ends. -/
def leadingNames : List (String × String) :=
  [("utf-8", "utf-8"), ("latin-1", "iso-8859-1"), ("iso-8859-1", "iso-8859-1"),
    ("iso-latin-1", "iso-8859-1")]

/-- The name under which a charset is looked for: a name that goes on after a line counts as its
beginning for two of the charsets. Only twelve characters are looked at. -/
def usualName (name : String) : String :=
  let start := (name.toList.take 12).map fun c => if c == '_' then '-' else c.toLower
  let isCalled := fun (n : String) =>
    start == n.toList || (n.toList ++ ['-']).isPrefixOf start
  ((leadingNames.find? fun i => isCalled i.1).map (·.2)).getD name

/-! ## The text -/

/-- The characters of a text in which escapes name characters by code, `u` with four digits and `U`
with eight; `skip` characters belong to an escape already read. -/
def decodeCodesFrom (skip : Nat) : List Char → Option (List Char)
  | [] => some []
  | c :: cs =>
    match skip with
    | skip + 1 => decodeCodesFrom skip cs
    | 0 =>
      match c, cs with
      | '\\', d :: rest =>
        if d == 'u' || d == 'U' then
          (codeEscape? d rest).bind fun (n, len) => (decodeCodesFrom len cs).map (ofCode n :: ·)
        else (decodeCodesFrom 1 cs).map fun cs => '\\' :: d :: cs
      | c, _ => (decodeCodesFrom 0 cs).map (c :: ·)

/-- The text that bytes stand for in the charset of the given name. Half of a character is no text. -/
def decodeNamed? (name : String) (bs : List UInt8) : Option (List Char) :=
  let found := match Charset.mainName name with
    | "unicode_escape" => (Charset.oneByte "").decode? bs |>.bind unescape
    | "raw_unicode_escape" => (Charset.oneByte "").decode? bs |>.bind (decodeCodesFrom 0)
    | _ => (Charset.ofName? name).bind (·.decode? bs)
  found.filter fun cs => cs.all fun c => (half? c).isNone

/-- Every carriage return, alone or before a line feed, becomes one line feed. -/
def unifyByteLines : List UInt8 → List UInt8
  | 13 :: 10 :: bs => 10 :: unifyByteLines bs
  | 13 :: bs => 10 :: unifyByteLines bs
  | b :: bs => b :: unifyByteLines bs
  | [] => []

/-- The bytes after a mark of the order of bytes, and whether there was one. -/
def unmarked : List UInt8 → Bool × List UInt8
  | 0xef :: 0xbb :: 0xbf :: rest => (true, rest)
  | bs => (false, bs)

/-- The name of the charset that a source file says its bytes are written in. -/
def charsetName (bs : List UInt8) : String :=
  ((namedCharset? (bs.map fun b => Char.ofNat b.toNat)).map usualName).getD "utf-8"

/-- The text that a source file is run as: nothing if its bytes do not go with what it says of them.
After a mark of the order of bytes it can only say that it is UTF-8. -/
def sourceText? (bytes : List UInt8) : Option (List Char) :=
  let (marked, bs) := unmarked (unifyByteLines bytes)
  let name := charsetName bs
  if marked && name != "utf-8" then none else decodeNamed? name bs

/-- The text of a source file is not known, as too little is known of its charset. -/
def isObscure (bytes : List UInt8) : Bool :=
  let (marked, bs) := unmarked (unifyByteLines bytes)
  !marked && (Charset.ofName? (charsetName bs)).any (·.exceeds bs)

end Codebook.Source
