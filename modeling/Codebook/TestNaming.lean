import Codebook.Ini.File
import Codebook.Regex.Match
import Codebook.Text.Blank
import Codebook.Text.Part

/-!
# What counts as a test

A project says in its test settings, `pytest.ini`, how test files are named and where they are. The
names are given as globs; `pattern` turns each into the regular expression that file names are
compared with. A project without settings gets `defaultPatterns`.
-/

namespace Codebook.TestNaming

open Text

/-- The test settings of a project: patterns of test file names and names of test directories, as
far as they are given. -/
structure Settings where
  patterns : Option (List String)
  paths : Option (List String)
  deriving DecidableEq, Repr

/-- The settings of a project that says nothing. -/
def Settings.none : Settings := ⟨.none, .none⟩

/-- Test files begin with `test_` or end with `_test` or `_spec`. -/
def defaultPatterns : List String :=
  ["test_.*\\.py", ".*_test\\.py", ".*_spec\\.py"]

/-- The regular expression for a glob of test file names. The usual shapes have expressions of their
own; in any other a star is written as a run of dots, and then every dot is quoted. -/
def pattern (glob : List Char) : String :=
  let starts := fun p : String => startsWith p.toList glob
  let ends := fun p : String => endsWith p.toList glob
  if starts "test_" && ends ".py" then "test_.*\\.py"
  else if ends "_test.py" then ".*_test\\.py"
  else if ends "_spec.py" then ".*_spec\\.py"
  else if starts "custom_" && ends ".py" then "custom_.*\\.py"
  else if ends "_custom.py" then ".*_custom\\.py"
  else String.ofList (replaceChar '.' ['\\', '.'] (replaceChar '*' ['.', '*'] glob))

/-- The settings that a settings file gives in its section `pytest`. -/
def Settings.ofIni (ini : Ini) : Except Ini.Error Settings := do
  if (ini.section? "pytest").isNone then return .none
  let files ← ini.get? "pytest" "python_files"
  let paths ← ini.get? "pytest" "testpaths"
  let patterns := (words (files.getD "").toList).map pattern
  return ⟨some patterns.eraseDups, paths.map fun p => (words p.toList).map String.ofList⟩

/-- The settings file of a directory. -/
def settingsFile (dir : Path) : Path :=
  dir.child "pytest.ini"

/-- The test settings of a directory. A directory without a settings file says nothing. -/
def settings (d : Disk) (dir : Path) : Except Ini.Error Settings :=
  match d.exists? (settingsFile dir) with
  | .ok true => (Ini.ofFile d (settingsFile dir)).bind Settings.ofIni
  | .ok false => .ok .none
  | .error e => .error (.file e)

/-- One of the patterns matches at the start of the name. The patterns are tried in order, so an
ill-formed one counts only if none before it matches. -/
def anyMatches (name : String) : List String → Except Regex.Error Bool
  | [] => .ok false
  | p :: ps =>
    match Regex.test p name with
    | .error e => .error e
    | .ok true => .ok true
    | .ok false => anyMatches name ps

/-- The file is a test, going by its name. -/
def isTest (patterns : Option (List String)) (file : Path) : Except Regex.Error Bool :=
  anyMatches file.name (patterns.getD defaultPatterns)

end Codebook.TestNaming
