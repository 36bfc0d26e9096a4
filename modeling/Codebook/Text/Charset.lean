import Codebook.Text.Charset.Name
import Codebook.Text.Charset.UpperHalf
import Codebook.Text.Charset.Utf7
import Codebook.Text.Utf8

/-!
# Charsets

What bytes stand for depends on the charset that they are written in. `Charset.ofName?` finds a
charset by any of its names, and `Charset.decode?` reads bytes, all of which have to stand for
something.

Of the charsets that use several bytes for one character, UTF-8 and UTF-7 apart, only the part is
known that they share with ASCII. `Charset.exceeds` says that bytes go beyond it, so that nothing is
known of the text that they stand for.
-/

namespace Codebook.Text

open Charset

/-- A charset. Of a `shared` one only the part is known that it shares with ASCII; `special` are the
bytes below 128 that it uses for something else. -/
inductive Charset
  | utf8 (marked : Bool)
  | utf7
  | ascii
  | shared (special : List UInt8)
  | oneByte (upper : String)
  | percent (upper : String)
  deriving DecidableEq, Repr

namespace Charset

/-- The byte that leads from one part of some charsets to another. -/
def escapeByte : UInt8 := 0x1b

/-- The charsets that are not read by a table of upper bytes, by their main names. -/
def special : List (String × Charset) := [
  ("utf_8", .utf8 false), ("utf_8_sig", .utf8 true), ("utf_7", .utf7),
  ("ascii", .ascii), ("idna", .ascii),
  ("latin_1", .oneByte ""), ("iso8859_1", .oneByte ""), ("charmap", .oneByte ""),
  ("gb2312", .shared []), ("gbk", .shared []), ("gb18030", .shared []),
  ("big5", .shared []), ("cp950", .shared []), ("big5hkscs", .shared []),
  ("euc_kr", .shared []), ("cp949", .shared []), ("johab", .shared []),
  ("shift_jis", .shared []), ("cp932", .shared []),
  ("euc_jp", .shared []), ("euc_jis_2004", .shared []), ("euc_jisx0213", .shared []),
  ("shift_jis_2004", .shared [0x5c, 0x7e]), ("shift_jisx0213", .shared [0x5c, 0x7e]),
  ("hz", .shared [0x7e]),
  ("iso2022_jp", .shared [escapeByte]), ("iso2022_jp_1", .shared [escapeByte]),
  ("iso2022_jp_2", .shared [escapeByte]), ("iso2022_jp_2004", .shared [escapeByte]),
  ("iso2022_jp_3", .shared [escapeByte]), ("iso2022_jp_ext", .shared [escapeByte]),
  ("iso2022_kr", .shared [0x0e, 0x0f, escapeByte])]

/-- The charset of the given name. -/
def ofName? (name : String) : Option Charset :=
  let main := mainName name
  match special.lookup main, upperHalves.lookup main with
  | some c, _ => some c
  | none, some upper => some (if main == "cp864" then .percent upper else .oneByte upper)
  | none, none => none

/-- The character of a byte, given the characters of the last bytes. -/
def oneByte? (upper : Array Char) (b : UInt8) : Option Char :=
  let first := 256 - upper.size
  if b.toNat < first then some (Char.ofNat b.toNat)
  else (upper[b.toNat - first]?).filter (· != vacant)

/-- The character of a byte below 128. -/
def asciiChar? (b : UInt8) : Option Char :=
  if b < 0x80 then some (Char.ofNat b.toNat) else none

/-- The bytes go beyond what is known of the charset. -/
def exceeds (charset : Charset) (bs : List UInt8) : Bool :=
  match charset with
  | .shared special => bs.any fun b => 0x80 ≤ b || special.contains b
  | _ => false

/-- The text that bytes stand for, if all of them are known to stand for something. -/
def decode? (charset : Charset) (bs : List UInt8) : Option (List Char) :=
  match charset with
  | .utf8 marked =>
    match (decode bs).toOption.map String.toList with
    | some ('\ufeff' :: cs) => some (if marked then cs else '\ufeff' :: cs)
    | found => found
  | .utf7 => decodeUtf7? bs
  | .ascii => bs.mapM asciiChar?
  | .shared _ => if charset.exceeds bs then none else bs.mapM asciiChar?
  | .oneByte upper =>
    let cells := upper.toList.toArray
    bs.mapM (oneByte? cells)
  | .percent upper =>
    let cells := upper.toList.toArray
    (bs.mapM (oneByte? cells)).map fun cs => cs.map fun c => if c == '%' then '\u066a' else c

end Charset

end Codebook.Text
