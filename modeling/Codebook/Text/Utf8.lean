import Codebook.Text.Quoted

/-!
# Text as bytes

Strict decoding of UTF-8. A sequence that is no encoding of a character is reported with the bytes
it covers and the reason: a byte that can start nothing, a byte that cannot continue what was
started, or the end of the data in the middle of a character.
-/

namespace Codebook.Text

/-- Why bytes are not the encoding of a text. -/
inductive DecodeReason where
  | startByte
  | continuationByte
  | endOfData
  deriving DecidableEq, Repr

/-- A failure to decode: the reason, the position of the first byte and the bytes concerned. -/
structure DecodeFailure where
  reason : DecodeReason
  position : Nat
  bytes : List UInt8
  deriving DecidableEq, Repr

/-- The wording of a reason. -/
def DecodeReason.message : DecodeReason → String
  | .startByte => "invalid start byte"
  | .continuationByte => "invalid continuation byte"
  | .endOfData => "unexpected end of data"

/-- The wording of a failure: one byte is named, of several the first and the last position. -/
def DecodeFailure.message (f : DecodeFailure) : String :=
  let place :=
    match f.bytes with
    | [b] => "byte 0x" ++ String.ofList (hex 2 b.toNat) ++ " in position " ++ toString f.position
    | bs => "bytes in position " ++ toString f.position ++ "-" ++
        toString (f.position + bs.length - 1)
  "'utf-8' codec can't decode " ++ place ++ ": " ++ f.reason.message

/-- Bytes `80` to `BF` continue a character. -/
def isContinuation (b : UInt8) : Bool :=
  0x80 ≤ b && b ≤ 0xbf

/-- What one encoded character at the start of the data is: its code point and its length, or the
reason why there is none and how many bytes that concerns (all of them at the end of the data). -/
def decodeOne (b : UInt8) (bs : List UInt8) : Except (DecodeReason × Nat) (Nat × Nat) :=
  let low (x : UInt8) : Nat := x.toNat % 64
  if b < 0x80 then .ok (b.toNat, 1)
  else if b < 0xc2 then .error (.startByte, 1)
  else if b < 0xe0 then
    match bs with
    | [] => .error (.endOfData, 1)
    | b2 :: _ =>
      if isContinuation b2 then .ok (b.toNat % 32 * 64 + low b2, 2)
      else .error (.continuationByte, 1)
  else if b < 0xf0 then
    match bs with
    | [] => .error (.endOfData, 1)
    | b2 :: bs =>
      if !isContinuation b2 || (if b2 < 0xa0 then b == 0xe0 else b == 0xed) then
        .error (.continuationByte, 1)
      else
        match bs with
        | [] => .error (.endOfData, 2)
        | b3 :: _ =>
          if isContinuation b3 then .ok (b.toNat % 16 * 4096 + low b2 * 64 + low b3, 3)
          else .error (.continuationByte, 2)
  else if b < 0xf5 then
    match bs with
    | [] => .error (.endOfData, 1)
    | b2 :: bs =>
      if !isContinuation b2 || (if b2 < 0x90 then b == 0xf0 else b == 0xf4) then
        .error (.continuationByte, 1)
      else
        match bs with
        | [] => .error (.endOfData, 2)
        | b3 :: bs =>
          if !isContinuation b3 then .error (.continuationByte, 2)
          else
            match bs with
            | [] => .error (.endOfData, 3)
            | b4 :: _ =>
              if isContinuation b4 then
                .ok (b.toNat % 8 * 262144 + low b2 * 4096 + low b3 * 64 + low b4, 4)
              else .error (.continuationByte, 3)
  else .error (.startByte, 1)

/-- The characters of `bs` that stand at `position`, after the first `skip` bytes, which belong to a
character already read; `out` holds the characters so far, last first. -/
def decodeFrom (position skip : Nat) (out : List Char) :
    List UInt8 → Except DecodeFailure (List Char)
  | [] => .ok out.reverse
  | b :: bs =>
    match skip with
    | skip + 1 => decodeFrom (position + 1) skip out bs
    | 0 =>
      match decodeOne b bs with
      | .ok (n, len) => decodeFrom (position + 1) (len - 1) (Char.ofNat n :: out) bs
      | .error (reason, len) => .error ⟨reason, position, (b :: bs).take len⟩

/-- The text whose encoding the bytes are. -/
def decode (bs : List UInt8) : Except DecodeFailure String :=
  (decodeFrom 0 0 [] bs).map String.ofList

/-- The text at the start of the data, and the bytes after it, which are the beginning of a character
that the data ends in. -/
def decodeStart (bs : List UInt8) : Except DecodeFailure (String × List UInt8) :=
  match decode bs with
  | .ok s => .ok (s, [])
  | .error f =>
    if f.reason = .endOfData then
      (decode (bs.take f.position)).map fun s => (s, bs.drop f.position)
    else .error f

/-- Data that comes in pieces, decoded piece by piece after the bytes `pending`, up to the first
failure. The failure counts from the start of its piece, pending bytes included. -/
def decodePieces (pending : List UInt8) (out : List Char) :
    List (List UInt8) → List Char × Option DecodeFailure
  | [] =>
    match decode pending with
    | .ok s => (out ++ s.toList, none)
    | .error f => (out, some f)
  | piece :: pieces =>
    match decodeStart (pending ++ piece) with
    | .ok (s, pending) => decodePieces pending (out ++ s.toList) pieces
    | .error f => (out, some f)

/-- Data cut into pieces of `size` bytes; `room` is what is left of the piece `piece`, last byte
first. -/
def piecesFrom (size room : Nat) (piece : List UInt8) : List UInt8 → List (List UInt8)
  | [] => if piece.isEmpty then [] else [piece.reverse]
  | b :: bs =>
    match room with
    | 0 => piece.reverse :: piecesFrom size (size - 1) [b] bs
    | room + 1 => piecesFrom size room (b :: piece) bs

/-- Data cut into pieces of `size` bytes and a last one with the rest. -/
def pieces (size : Nat) (bs : List UInt8) : List (List UInt8) :=
  piecesFrom size size [] bs

/-- The encoding of a text. -/
def encode (s : String) : List UInt8 :=
  s.toUTF8.toList

end Codebook.Text
