import Codebook.Inspection

/-!
# Extractors

An extractor makes items out of files. Which files it takes is for itself to say; the one for source
files goes by the suffix of a file's name.
-/

namespace Codebook

/-- What an extractor makes of a file: one item or a list of them, or a failure that is reported, or
the end of the program. -/
inductive Outcome
  | one (item : Item)
  | many (items : List Item)
  | failed (message : String)
  | escaped (e : Live.Raised)
  deriving Repr

/-- An extractor. Files are run in a session, which lasts from one file to the next. -/
structure Extractor where
  name : String
  version : String
  extensions : List String
  capabilities : List Capability
  accepts : Path → Bool
  extract : Disk → Path → Live.Store → Outcome × Live.Store

namespace Extractor

/-- The name of the file ends with one of the extensions. -/
def hasExtension (extensions : List String) (path : Path) : Bool :=
  extensions.contains path.suffix

/-- What an inspection gives as an outcome. -/
def outcomeOf : Except Inspection.Failure ModuleRecord → Outcome
  | .ok m => .one (.module m)
  | .error (.file e) => .failed e.message
  | .error (.escaped e) => .escaped e

/-- The extractor for Python files that runs them in the given way. -/
def pythonWith (run : Inspection.Runner) : Extractor where
  name := sourceExtractor
  version := "0.1.0"
  extensions := [".py"]
  capabilities := [.codeStructure]
  accepts := hasExtension [".py"]
  extract d path s :=
    let (r, s) := Inspection.inspectWith run d path s
    (outcomeOf r, s)

/-- The extractor for Python files; with `loads` false it never runs them. -/
def python (loads : Bool) : Extractor :=
  pythonWith (Inspection.running loads)

end Extractor

end Codebook
