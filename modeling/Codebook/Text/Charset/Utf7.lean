/-!
# UTF-7

Characters beyond ASCII are written between a plus and a minus in base 64, as units of 16 bits. A plus
before a minus stands for itself.
-/

namespace Codebook.Text.Charset

/-- The value of a digit to the base 64. -/
def base64Digit? (b : Nat) : Option Nat :=
  if 65 ≤ b && b ≤ 90 then some (b - 65)
  else if 97 ≤ b && b ≤ 122 then some (b - 71)
  else if 48 ≤ b && b ≤ 57 then some (b + 4)
  else if b == 43 then some 62
  else if b == 47 then some 63
  else none

/-- What a stretch in base 64 has brought so far: bits that do not yet make a unit, with their number,
and the first unit of a character that takes two. -/
structure Shift where
  bits : Nat := 0
  count : Nat := 0
  high : Option Nat := none

/-- The stretch can end: no digit is left over, no bit that is set, and no half of a character. -/
def Shift.isClosed (s : Shift) : Bool :=
  s.count < 6 && s.bits == 0 && s.high.isNone

/-- One more digit, and the character that it completes. Half of a character without its other half
is no text. -/
def Shift.push (s : Shift) (digit : Nat) : Option (Shift × Option Char) :=
  let bits := s.bits * 64 + digit
  let count := s.count + 6
  if count < 16 then some (⟨bits, count, s.high⟩, none)
  else
    let rest := Nat.pow 2 (count - 16)
    let unit := bits / rest
    let left : Shift := ⟨bits % rest, count - 16, none⟩
    let isHigh := 0xd800 ≤ unit && unit < 0xdc00
    let isLow := 0xdc00 ≤ unit && unit < 0xe000
    match s.high with
    | some h =>
      if isLow then
        some (left, some (Char.ofNat (0x10000 + (h - 0xd800) * 1024 + (unit - 0xdc00))))
      else none
    | none =>
      if isHigh then some ({ left with high := some unit }, none)
      else if isLow then none
      else some (left, some (Char.ofNat unit))

/-- The characters that bytes stand for, inside a stretch in base 64 or outside; `done` are those so
far, last first. -/
def decodeUtf7From (shift : Option Shift) (done : List Char) : List UInt8 → Option (List Char)
  | [] => if shift.all Shift.isClosed then some done.reverse else none
  | b :: bs =>
    let c := b.toNat
    match shift with
    | some s =>
      match base64Digit? c with
      | some d =>
        match s.push d with
        | some (s, found) => decodeUtf7From (some s) (found.toList ++ done) bs
        | none => none
      | none =>
        if !s.isClosed || 128 ≤ c then none
        else if c == 45 then decodeUtf7From none done bs
        else decodeUtf7From none (Char.ofNat c :: done) bs
    | none =>
      if c == 43 then
        match bs with
        | [] => some done.reverse
        | d :: rest =>
          if d == 45 then decodeUtf7From none ('+' :: done) rest
          else if (base64Digit? d.toNat).isSome then decodeUtf7From (some {}) done (d :: rest)
          else none
      else if c < 128 then decodeUtf7From none (Char.ofNat c :: done) bs
      else none

/-- The text that bytes in UTF-7 stand for. -/
def decodeUtf7? (bs : List UInt8) : Option (List Char) :=
  decodeUtf7From none [] bs

end Codebook.Text.Charset
