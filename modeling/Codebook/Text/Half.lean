import Codebook.Text.Quoted

/-!
# Halves of characters

Characters beyond the first plane have two code units in some encodings, and an escape can name one
of these halves alone. Such a half can be kept in a text and quoted, but it has no encoding in
bytes: `encode?` fails on a text that holds one.

The characters from U+E0800 to U+E0FFF are given up for halves (`half?`), so that `encode?` also
fails on a text that means one of them, although it has an encoding. What is said of `Disk.write` and
of commands that write files rests on this.
-/

namespace Codebook.Text

/-- A failure to encode: the position of the first half in the text and the halves that follow each
other there. -/
structure EncodeFailure where
  position : Nat
  halves : List Nat
  deriving DecidableEq, Repr

/-- The wording of a failure: one half is named, of several the first and the last position. -/
def EncodeFailure.message (f : EncodeFailure) : String :=
  let place :=
    match f.halves with
    | [h] => "character '\\u" ++ String.ofList (hex 4 h) ++ "' in position " ++
        toString f.position
    | hs => "characters in position " ++ toString f.position ++ "-" ++
        toString (f.position + hs.length - 1)
  "'utf-8' codec can't encode " ++ place ++ ": surrogates not allowed"

/-- The bytes of a text in which no half stands alone. -/
def encode? (s : String) : Except EncodeFailure (List UInt8) :=
  let cs := s.toList
  let before := cs.takeWhile fun c => (half? c).isNone
  match (cs.drop before.length).map half? with
  | [] => .ok s.toUTF8.toList
  | hs => .error ⟨before.length, (hs.takeWhile Option.isSome).filterMap id⟩

end Codebook.Text
