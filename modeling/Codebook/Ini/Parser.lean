import Codebook.Ini.Basic
import Codebook.Text.Blank
import Codebook.Text.Lines
import Codebook.Text.Lower
import Codebook.Text.Part

/-!
# Reading settings files

A file is read line by line. A line that starts with `#` or `;` is a comment. A line that is
indented deeper than the option before it continues the value of that option, and so does an empty
line. `[name]` opens a section, `name = value` or `name: value` sets an option. A line that is none
of these is noted, and the notes are the error at the end of the file; all other errors end the
reading at once.
-/

namespace Codebook.Ini

open Text

/-- The section whose options every section has. -/
def defaultSection : String := "DEFAULT"

/-- Options with the lines of their values, last first. -/
abbrev Draft := List (String × List (List Char))

/-- The state after some lines: the options so far, the section and the option that a line can
continue, the indentation of that option, and the lines that were not understood. -/
structure Reader where
  defaults : Draft
  sections : List (String × Draft)
  current : Option String
  option : Option String
  indent : Nat
  bad : List (Nat × String)

/-- The state before the first line. -/
def Reader.start : Reader := ⟨[], [], none, none, 0, []⟩

/-- The options of the section that is being read. -/
def Reader.draft (r : Reader) (name : String) : Draft :=
  if name == defaultSection then r.defaults
  else ((r.sections.find? (·.1 == name)).map (·.2)).getD []

/-- A change to the options of a section. -/
def Reader.updateDraft (r : Reader) (name : String) (f : Draft → Draft) : Reader :=
  if name == defaultSection then { r with defaults := f r.defaults }
  else { r with sections := r.sections.map fun s => if s.1 == name then (s.1, f s.2) else s }

/-- A line added to the value of the option that can be continued. -/
def Reader.addLine (r : Reader) (line : List Char) : Reader :=
  match r.current, r.option with
  | some name, some option =>
    r.updateDraft name (·.map fun o => if o.1 == option then (o.1, line :: o.2) else o)
  | _, _ => r

/-- The name in a section header: all between the first bracket and the last. -/
def header? : List Char → Option String
  | '[' :: cs =>
    let name := (cs.reverse.dropWhile (· != ']')).drop 1
    if name.isEmpty then none else some (String.ofList name.reverse)
  | _ => none

/-- A line cut at its first delimiter: the name of the option and its value. -/
def assignment? (cs : List Char) : Option (String × List Char) :=
  let isDelimiter := fun c => c == '=' || c == ':'
  match cs.dropWhile (!isDelimiter ·) with
  | _ :: value =>
    some (lower (String.ofList (stripEnd (cs.takeWhile (!isDelimiter ·)))), strip value)
  | [] => none

/-- The state after a line is noted as not understood. -/
def Reader.note (r : Reader) (number : Nat) (line : List Char) : Reader :=
  { r with bad := r.bad ++ [(number, String.ofList line)] }

/-- The state after a section header. -/
def Reader.openSection (r : Reader) (source : String) (number : Nat) (name : String) :
    Except Error Reader :=
  if name == defaultSection then .ok { r with current := some name, option := none }
  else if r.sections.any (·.1 == name) then .error (.repeatedSection name source number)
  else .ok { r with
    sections := r.sections ++ [(name, [])]
    current := some name
    option := none }

/-- The state after an option is set in a section. -/
def Reader.setOption (r : Reader) (source : String) (number : Nat) (sectionName : String)
    (line : List Char) (name : String) (value : List Char) : Except Error Reader :=
  let r := if name.isEmpty then r.note number line else r
  if (r.draft sectionName).any (·.1 == name) then
    .error (.repeatedOption sectionName name source number)
  else .ok { r.updateDraft sectionName (· ++ [(name, [value])]) with
    option := if name.isEmpty then none else some name }

/-- The state after one more line, `line`, which is the line with the given number. -/
def Reader.step (source : String) (r : Reader) (number : Nat) (line : List Char) :
    Except Error Reader :=
  let value := strip line
  match value with
  | [] => .ok (r.addLine [])
  | '#' :: _ => .ok r
  | ';' :: _ => .ok r
  | _ =>
    let indent := (line.takeWhile isBlank).length
    if r.current.isSome && r.option.isSome && r.indent < indent then .ok (r.addLine value)
    else
      let r := { r with indent := indent }
      match header? value with
      | some name => r.openSection source number name
      | none =>
        match r.current with
        | none => .error (.noSection source number (String.ofList line))
        | some sectionName =>
          match assignment? value with
          | some (name, value) => r.setOption source number sectionName line name value
          | none => .ok (r.note number line)

/-- The state after the lines that start with the given number. -/
def Reader.steps (source : String) (r : Reader) (number : Nat) :
    List (List Char) → Except Error Reader
  | [] => .ok r
  | line :: ls =>
    match r.step source number line with
    | .ok r => Reader.steps source r (number + 1) ls
    | .error e => .error e

/-- Options with their values: the lines joined, without blanks at the end. -/
def finish (draft : Draft) : List (String × String) :=
  draft.map fun o => (o.1, String.ofList (stripEnd (join ['\n'] o.2.reverse)))

/-- The settings that the lines of a file write. A failure to decode what follows the lines comes
before the lines that were not understood. -/
def parse (source : String) (ls : List (List Char)) (failure : Option DecodeFailure) :
    Except Error Ini :=
  match Reader.steps source .start 1 ls, failure with
  | .error e, _ => .error e
  | .ok _, some f => .error (.undecodable f)
  | .ok r, none =>
    if r.bad.isEmpty then
      .ok ⟨finish r.defaults, r.sections.map fun s => (s.1, finish s.2)⟩
    else .error (.malformed source r.bad)

/-- The number of bytes that are read at a time. -/
def pieceSize : Nat := 8192

/-- The lines of a file that can be read, and the failure that ends them. A file is read in pieces,
and of those before a failure only the lines count whose end is certain: a carriage return at the
end of a piece may be half of a line end. -/
def linesOf (bytes : List UInt8) : List (List Char) × Option DecodeFailure :=
  match decodePieces [] [] (pieces pieceSize bytes) with
  | (cs, none) => (keptLines [] (unifyNewlines cs), none)
  | (cs, some f) =>
    let certain := if cs.getLast? == some '\r' then cs.dropLast else cs
    let ls := keptLines [] (unifyNewlines certain)
    (ls.filter fun l => l.getLast? == some '\n', some f)

/-- The settings that the bytes of a file write. -/
def ofBytes (source : String) (bytes : List UInt8) : Except Error Ini :=
  let (ls, failure) := linesOf bytes
  parse source ls failure

end Codebook.Ini
