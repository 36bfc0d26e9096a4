/-!
# Parts of a text

Where one text occurs in another: at the start, at the end, first of all, everywhere.
-/

namespace Codebook.Text

/-- What follows `p` at the start of a text, if the text starts with it. -/
def dropPart? : (p : List Char) → List Char → Option (List Char)
  | [], cs => some cs
  | _ :: _, [] => none
  | a :: p, c :: cs => if a == c then dropPart? p cs else none

/-- A part is dropped if the text starts with it. -/
theorem dropPart?_eq_some_iff {p cs rest : List Char} :
    dropPart? p cs = some rest ↔ cs = p ++ rest := by
  induction p generalizing cs with
  | nil => simp [dropPart?]
  | cons a p ih =>
    cases cs with
    | nil => simp [dropPart?]
    | cons c cs =>
      by_cases h : a = c
      · simp [dropPart?, h, ih]
      · simp [dropPart?, h, Ne.symm h]

/-- The text starts with `p`. -/
def startsWith (p cs : List Char) : Bool :=
  (dropPart? p cs).isSome

/-- The text starts with the part. -/
theorem startsWith_iff {p cs : List Char} : startsWith p cs = true ↔ p <+: cs := by
  rw [startsWith, Option.isSome_iff_exists]
  exact exists_congr fun _ => dropPart?_eq_some_iff.trans eq_comm

/-- The text ends with `p`. -/
def endsWith (p cs : List Char) : Bool :=
  startsWith p.reverse cs.reverse

/-- The text ends with the part. -/
theorem endsWith_iff {p cs : List Char} : endsWith p cs = true ↔ p <:+ cs := by
  simp only [endsWith, startsWith_iff, List.reverse_prefix]

/-- The text before and after the first occurrence of `p`. -/
def cutAt? (p : List Char) : List Char → Option (List Char × List Char)
  | [] => (dropPart? p []).map fun rest => ([], rest)
  | c :: cs =>
    match dropPart? p (c :: cs) with
    | some rest => some ([], rest)
    | none => (cutAt? p cs).map fun r => (c :: r.1, r.2)

/-- The text before the first occurrence of one of `ps`, or all of it. -/
def uptoAny (ps : List (List Char)) : List Char → List Char
  | [] => []
  | c :: cs => if ps.any (startsWith · (c :: cs)) then [] else c :: uptoAny ps cs

/-- The text has `p` somewhere in it. -/
def containsPart (p cs : List Char) : Bool :=
  (cutAt? p cs).isSome

/-- Each character of a text replaced by a text. -/
def replaceChar (c : Char) (new : List Char) (cs : List Char) : List Char :=
  cs.flatMap fun x => if x == c then new else [x]

end Codebook.Text
