import Codebook.Ignore
import Codebook.TestNaming

/-!
# Finding source files

The source files of a directory are found by a walk from the top down. `Survey` says what applies to
one directory: names that are not entered, patterns of its ignore file and its test settings. Files
are then kept or left out one by one; the ignore file never keeps the walk out of a directory.

A search of the current directory, written as a dot, that has a directory `src` first searches that
one, so that its files are listed twice.
-/

namespace Codebook.Search

open Text

/-- What a search is asked for. -/
structure Options where
  excluded : List String
  skipDotfiles : Bool
  includeTests : Bool
  useIgnoreFile : Bool
  deriving DecidableEq, Repr

/-- The directories that a search leaves out unless told otherwise. -/
def defaultExcluded : List String :=
  [".venv", ".git", "__pycache__", "tests", "build", "dist"]

/-- The search that is made unless told otherwise. -/
def Options.default : Options := ⟨defaultExcluded, true, false, true⟩

/-- Why a search fails. -/
inductive Error
  | file (e : FileError)
  | settings (e : Ini.Error)
  | pattern (e : Regex.Error)
  deriving DecidableEq, Repr

/-- The wording of an error. -/
def Error.message : Error → String
  | .file e => e.message
  | .settings e => e.message
  | .pattern e => e.message

/-- What applies to the search of one directory: its absolute path, the names that are not entered,
the rules of its ignore file and the patterns of test files. -/
structure Survey where
  root : Path
  excluded : List String
  rules : List Ignore.Rule
  patterns : Option (List String)

/-- The survey of a directory. -/
def survey (d : Disk) (o : Options) (dir : Path) : Except Error Survey := do
  let settings ← (TestNaming.settings d dir).mapError .settings
  let ignore ← if o.useIgnoreFile then (Ignore.ofDirectory d dir).mapError .file else pure []
  let root ← (d.locate dir).mapError .file
  return {
    root
    excluded := o.excluded ++ settings.paths.getD []
    rules := ignore.map Ignore.Rule.ofPattern
    patterns := settings.patterns }

/-- The name is that of a source file that the search looks for. -/
def Options.wants (o : Options) (name : String) : Bool :=
  endsWith ".py".toList name.toList && !(o.skipDotfiles && startsWith ['.'] name.toList)

/-- The file belongs to the result. -/
def Survey.keeps (s : Survey) (o : Options) (file : Path) : Except Error Bool :=
  if Ignore.judge false (Ignore.pathText file s.root) s.rules then .ok false
  else if o.includeTests then .ok true
  else
    match TestNaming.isTest s.patterns file with
    | .ok test => .ok !test
    | .error e => .error (.pattern e)

/-- The files among candidates that belong to the result. -/
def Survey.select (s : Survey) (o : Options) : List Path → Except Error (List Path)
  | [] => .ok []
  | f :: fs => do
    let kept ← s.keeps o f
    let rest ← s.select o fs
    return if kept then f :: rest else rest

/-- The source files met on the walk, in order. -/
def Survey.candidates (s : Survey) (o : Options) (d : Disk) : List Path :=
  (d.walk (s.excluded.contains ·) s.root).flatMap fun v =>
    (v.files.filter o.wants).map fun f => Path.ofString (Path.joinText v.root f)

/-- The source files of a surveyed directory. -/
def Survey.list (s : Survey) (o : Options) (d : Disk) : Except Error (List Path) :=
  s.select o (s.candidates o d)

/-- The source files of one directory. -/
def list (d : Disk) (o : Options) (dir : Path) : Except Error (List Path) := do
  (← survey d o dir).list o d

/-- The directory for sources in a searched directory. -/
def sourceDirectory (root : Path) : Path :=
  root.child "src"

/-- The source files of a directory. -/
def find (d : Disk) (o : Options) (directory : String) : Except Error (List Path) := do
  let s ← survey d o (Path.ofString directory)
  let src := sourceDirectory s.root
  let inside ← if directory == "." then (d.isDir src).mapError .file else pure false
  let first ← if inside then list d { o with excluded := s.excluded } src else pure []
  return first ++ (← s.list o d)

end Codebook.Search
