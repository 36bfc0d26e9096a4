import Codebook.Text.Blank
import Codebook.Text.Part
import Codebook.Text.Word

/-!
# Sections of a docstring

A docstring in the sectioned style describes parameters under `Args:`, one entry
`name (type): description` each, and the result under `Returns:`, as `type: description`.
`Docstring.parse` reads both sections and ignores all else.

The section of the parameters ends at the first `Returns:` or `Raises:`, that of the result at the
first `Raises:`. An entry's description goes on until a new line starts with the head of another
entry. A name that occurs twice keeps its first place and takes its last description.
-/

namespace Codebook

open Text

/-- What a docstring says about one parameter. -/
structure Docstring.Entry where
  name : String
  type : String
  description : String
  deriving DecidableEq, Repr

/-- What a docstring says about the result. -/
structure Docstring.Result where
  type : String
  description : String
  deriving DecidableEq, Repr

/-- The parameters and the result that a docstring describes. -/
structure Docstring where
  params : List Docstring.Entry
  returns : Option Docstring.Result
  deriving DecidableEq, Repr

namespace Docstring

/-- The docstring that describes nothing. -/
def empty : Docstring := ⟨[], none⟩

/-- The description of a parameter, if it has one. -/
def description? (d : Docstring) (name : String) : Option String :=
  (d.params.find? (·.name == name)).map (·.description)

/-! ## Entries -/

/-- The head `name (type):` of an entry at the start of a text: its name, its type as written, and
what follows the colon. -/
def head? (cs : List Char) : Option (List Char × List Char × List Char) :=
  let name := cs.takeWhile isWord
  let afterName := cs.dropWhile isWord
  match afterName.dropWhile isBlank with
  | '(' :: inside =>
    let type := inside.takeWhile (· != ')')
    if name.isEmpty || !(afterName.head?.any isBlank) || type.isEmpty then none
    else
      match inside.dropWhile (· != ')') with
      | ')' :: ':' :: rest => some (name, type, rest)
      | _ => none
  | _ => none

/-- A description ends before a new line that starts, after blanks, with the head of an entry.
The description and what follows it. -/
def description : List Char → List Char × List Char
  | [] => ([], [])
  | c :: cs =>
    if c == '\n' && (head? (stripStart cs)).isSome then ([], c :: cs)
    else
      let r := description cs
      (c :: r.1, r.2)

/-- The whole entry at the start of a text, and what follows it. At least one blank has to stand
between the colon and the description. -/
def entryAt? (cs : List Char) : Option (Entry × List Char) :=
  match head? cs with
  | some (name, type, rest) =>
    if rest.head?.any isBlank then
      let d := description (stripStart rest)
      some (⟨String.ofList name, String.ofList (strip type), String.ofList (strip d.1)⟩, d.2)
    else none
  | none => none

/-- The entries of a section from left to right; each is looked for behind the end of the one
before. -/
def entriesFrom : (fuel : Nat) → List Char → List Entry
  | 0, _ => []
  | _, [] => []
  | fuel + 1, c :: cs =>
    match entryAt? (c :: cs) with
    | some (e, rest) => e :: entriesFrom fuel rest
    | none => entriesFrom fuel cs

/-- The entries of a section. Every step moves on, so the length of the section bounds them. -/
def entries (cs : List Char) : List Entry :=
  entriesFrom cs.length cs

/-- Adds an entry to a list without repeated names: a known name keeps its place. -/
def insertEntry (es : List Entry) (e : Entry) : List Entry :=
  if es.any (·.name == e.name) then es.map fun x => if x.name == e.name then e else x
  else es ++ [e]

/-! ## Sections -/

/-- The text of the parameter section. -/
def paramSection? (cs : List Char) : Option (List Char) :=
  (cutAt? "Args:".toList cs).map fun r =>
    strip (uptoAny ["Returns:".toList, "Raises:".toList] r.2)

/-- The text of the section about the result. -/
def returnSection? (cs : List Char) : Option (List Char) :=
  (cutAt? "Returns:".toList cs).map fun r => strip (uptoAny ["Raises:".toList] r.2)

/-- Characters that the type of the result may consist of. -/
def isTypeChar (c : Char) : Bool :=
  isWord c || c == '[' || c == ']' || c == ',' || isBlank c

/-- The first `type: description` of a section: a maximal run of type characters before a colon that
a blank follows. -/
def resultFrom : (fuel : Nat) → List Char → Option Result
  | 0, _ => none
  | _, [] => none
  | fuel + 1, c :: cs =>
    let type := (c :: cs).takeWhile isTypeChar
    match (c :: cs).dropWhile isTypeChar with
    | ':' :: b :: rest =>
      if !type.isEmpty && isBlank b then
        some ⟨String.ofList (strip type), String.ofList (strip rest)⟩
      else resultFrom fuel (b :: rest)
    | _ :: rest => resultFrom fuel rest
    | [] => none

/-- What the section about the result says. -/
def result? (cs : List Char) : Option Result :=
  resultFrom cs.length cs

/-- Reads the sections of a docstring. -/
def parse (s : String) : Docstring where
  params :=
    match paramSection? s.toList with
    | some section_ => (entries section_).foldl insertEntry []
    | none => []
  returns := (returnSection? s.toList).bind result?

/-- Reads the sections of a docstring that may be missing. -/
def parse? : Option String → Docstring
  | some s => parse s
  | none => empty

end Docstring

end Codebook
