import Codebook.Text.Lines

/-!
# Paths

A path is an anchor and a list of parts. Reading a path drops empty parts and parts that are a
single dot, and keeps `..` as a part like any other. A text that starts with exactly two slashes
has an anchor of its own; any other number of leading slashes is the plain root.
-/

namespace Codebook

open Text

/-- Where a path starts: at the current directory, at the root, or at the root written with two
slashes, which is kept apart from it. -/
inductive Path.Anchor
  | here
  | root
  | doubled
  deriving DecidableEq, Repr

/-- A path: where it starts and the names on the way. -/
structure Path where
  anchor : Path.Anchor
  parts : List String
  deriving DecidableEq, Repr

namespace Path

/-- The current directory. -/
def current : Path := ⟨.here, []⟩

/-- The text of an anchor. -/
def Anchor.text : Anchor → String
  | .here => ""
  | .root => "/"
  | .doubled => "//"

/-- The anchor of a path text. -/
def anchorOf : List Char → Anchor
  | '/' :: '/' :: '/' :: _ => .root
  | '/' :: '/' :: _ => .doubled
  | '/' :: _ => .root
  | _ => .here

/-- The parts of a path text. -/
def partsOf (cs : List Char) : List String :=
  ((split '/' cs).filter fun p => !p.isEmpty && p != ['.']).map String.ofList

/-- The path that a text names. -/
def ofString (s : String) : Path :=
  ⟨anchorOf s.toList, partsOf s.toList⟩

/-- The text of a path; the path without anchor and parts is a dot. -/
def toString (p : Path) : String :=
  match p.anchor, p.parts with
  | .here, [] => "."
  | a, ps => a.text ++ "/".intercalate ps

/-- The path holds a null character, so that it can name nothing. -/
def hasNull (p : Path) : Bool :=
  p.toString.toList.contains '\x00'

/-- The path `q` seen from `p`: an anchored `q` stands alone. -/
def join (p q : Path) : Path :=
  match q.anchor with
  | .here => ⟨p.anchor, p.parts ++ q.parts⟩
  | _ => q

/-- The entry called `name` in the directory `p`. -/
def child (p : Path) (name : String) : Path :=
  p.join (ofString name)

/-- What follows `ps` at the start of a list of parts. -/
def dropParts? : (ps : List String) → List String → Option (List String)
  | [], qs => some qs
  | _ :: _, [] => none
  | p :: ps, q :: qs => if p == q then dropParts? ps qs else none

/-- The path as seen from `base`, if it lies in it. -/
def relativeTo? (p base : Path) : Option Path :=
  if p.anchor = base.anchor then (dropParts? base.parts p.parts).map (⟨.here, ·⟩) else none

/-- The last part, or nothing for a path without parts. -/
def name (p : Path) : String :=
  p.parts.getLast?.getD ""

/-- A name cut before its last dot. A dot at either end of the name does not cut. -/
def cutName (cs : List Char) : List Char × List Char :=
  let after := (cs.reverse.takeWhile (· != '.')).reverse
  let before := cs.take (cs.length - after.length - 1)
  if before.isEmpty || after.isEmpty then (cs, []) else (before, '.' :: after)

/-- The name without its suffix. -/
def stem (p : Path) : String :=
  String.ofList (cutName p.name.toList).1

/-- The last dot of the name and what follows it. -/
def suffix (p : Path) : String :=
  String.ofList (cutName p.name.toList).2

/-- Texts joined as directory and entry: an anchored entry stands alone, and a slash is set
between them unless the directory is empty or ends with one. -/
def joinText (root file : String) : String :=
  if file.startsWith "/" then file
  else if root.isEmpty || root.endsWith "/" then root ++ file
  else root ++ "/" ++ file

end Path

end Codebook
