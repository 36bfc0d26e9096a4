import Codebook.Disk
import Codebook.Glob
import Codebook.Text.Blank
import Codebook.Text.Part

/-!
# Ignore files

An ignore file lists one pattern per line. A path is judged by the first pattern that matches it:
it is ignored, or kept if that pattern starts with `!`. A pattern that ends with a slash is tried
on directories only. A pattern is compared with the whole path; a pattern without a slash, or one
that starts with `**/`, also with each part of it.

Whether a path is a directory may not be known, and finding out may fail. The answer is then asked
for at the first pattern that needs it, and a failure that is not among those taken for "no
directory" is the outcome.
-/

namespace Codebook.Ignore

open Text

/-! ## Reading -/

/-- The patterns of an ignore file: its lines without surrounding blanks, apart from empty lines
and comments. -/
def patterns (text : String) : List String :=
  (((lines text.toList).map strip).filter fun l =>
    !l.isEmpty && !startsWith ['#'] l).map String.ofList

/-- The patterns of the ignore file in a directory; none if there is no such file. -/
def ofDirectory (d : Disk) (dir : Path) : Except FileError (List String) :=
  let file := dir.child ".gitignore"
  match d.exists? file with
  | .ok true => (d.read file).map patterns
  | .ok false => .ok []
  | .error e => .error e

/-- What a pattern says: it keeps instead of ignoring, it is for directories only, it is also tried
on the parts of a path, and the glob it compares with. -/
structure Rule where
  keeps : Bool
  directoryOnly : Bool
  anywhere : Bool
  glob : Glob
  deriving DecidableEq, Repr

/-- The pattern without its leading `!`, and whether it has one. -/
def cutKeep : List Char → Bool × List Char
  | '!' :: cs => (true, cs)
  | cs => (false, cs)

/-- The pattern without one slash at its end, and whether it has one. -/
def cutSlash (cs : List Char) : Bool × List Char :=
  if endsWith ['/'] cs then (true, cs.dropLast) else (false, cs)

/-- Whether a pattern is also tried on the parts of a path, and the text of its glob. -/
def scope : List Char → Bool × List Char
  | '/' :: cs => (false, cs)
  | '*' :: '*' :: '/' :: cs => (true, cs)
  | cs => (!cs.contains '/', cs)

/-- The rule that a pattern writes. -/
def Rule.ofPattern (pattern : String) : Rule :=
  let (keeps, cs) := cutKeep pattern.toList
  let (directoryOnly, cs) := cutSlash cs
  let (anywhere, cs) := scope cs
  ⟨keeps, directoryOnly, anywhere, Glob.parseFrom 0 cs⟩

/-! ## Judging -/

/-- The rule's glob matches the path text, or one of its parts where that counts. -/
def Rule.covers (r : Rule) (path : String) : Bool :=
  r.glob.accepts path.toList ||
    (r.anywhere && (split '/' path.toList).any r.glob.accepts)

/-- Why it cannot be found out whether a path is a directory: there is nothing to ask, the question
makes no sense for the path, or something else went wrong. -/
inductive LookupError
  | unsupported (message : String)
  | invalid (message : String)
  | system (message : String)
  deriving DecidableEq, Repr

/-- An answer that cannot be had because the question makes no sense counts as "no directory". -/
def settle : Except LookupError Bool → Except LookupError Bool
  | .error (.unsupported _) => .ok false
  | .error (.invalid _) => .ok false
  | r => r

/-- The verdict of the first rule that matches: the path is ignored unless that rule keeps it.
`directory` is the answer to the question whether the path is a directory. -/
def verdict (directory : Except LookupError Bool) (path : String) :
    List Rule → Except LookupError Bool
  | [] => .ok false
  | r :: rs =>
    if r.directoryOnly then
      match settle directory with
      | .error e => .error e
      | .ok true => if r.covers path then .ok !r.keeps else verdict directory path rs
      | .ok false => verdict directory path rs
    else if r.covers path then .ok !r.keeps
    else verdict directory path rs

/-- The text by which a path is judged: relative to the base where it lies in it, with slashes
throughout. -/
def pathText (path base : Path) : String :=
  let p := (path.relativeTo? base).getD path
  String.ofList (replaceChar '\\' ['/'] p.toString.toList)

/-- The path is ignored by one of the patterns of the directory `base`. -/
def ignored (patterns : List String) (base path : Path)
    (directory : Except LookupError Bool) : Except LookupError Bool :=
  verdict directory (pathText path base) (patterns.map Rule.ofPattern)

/-- How it is found out whether a path is a directory: it is asked whether there is anything at the
path, and then whether that is a directory. -/
structure Lookup where
  exists? : Path → Except LookupError Bool
  isDir : Path → Except LookupError Bool

/-- Whether a path is a directory: what is known of it, or else what is found out. -/
def Lookup.directory (l : Lookup) (known : Option Bool) (path : Path) : Except LookupError Bool :=
  match known with
  | some answer => .ok answer
  | none =>
    match l.exists? path with
    | .ok true => l.isDir path
    | r => r

/-- The path is ignored by one of the patterns of the directory `base`. Whether it is a directory is
looked up if it is not known. -/
def Lookup.ignored (l : Lookup) (patterns : List String) (base path : Path)
    (known : Option Bool) : Except LookupError Bool :=
  Ignore.ignored patterns base path (l.directory known path)

/-- The verdict on a path of which it is known whether it is a directory. -/
def judge (directory : Bool) (path : String) : List Rule → Bool
  | [] => false
  | r :: rs =>
    if (!r.directoryOnly || directory) && r.covers path then !r.keeps else judge directory path rs

/-- With a known answer the verdict is a plain truth value. -/
theorem verdict_ok (b : Bool) (path : String) (rs : List Rule) :
    verdict (.ok b) path rs = .ok (judge b path rs) := by
  induction rs with
  | nil => rfl
  | cons r rs ih =>
    cases hd : r.directoryOnly <;> cases b <;> cases hc : r.covers path <;>
      simp [verdict, judge, settle, hd, hc, ih]

end Codebook.Ignore
