import Codebook.Live.Describe
import Codebook.Outline.Module

/-!
# Inspecting a source file

A source file is run, and its record is taken from the objects that are then there. If running it
fails, or one of the objects has no record, the record is taken from its text alone. Only what stops
the whole program passes through: an exception that is no ordinary one, such as a request to exit.

How running a file ends is a parameter of `inspectWith`. `inspect` runs files as far as their
language is followed: `while` loops that are entered, `with`, `match`, slices and many calls are
beyond it. A file whose run goes beyond it is described by its text, although the run may well come
to its end, or stop the program. What is said of `inspect` for all files says this of such files too;
what is said of `inspectWith` for all ways to run files does not depend on it.
-/

namespace Codebook.Inspection

/-- Why there is no record of a file. -/
inductive Failure
  | file (e : FileError)
  | escaped (e : Live.Raised)
  deriving Repr

/-- The exception is an ordinary one, which a program goes on after. -/
def isOrdinary (s : Live.Store) (v : Live.Value) : Bool :=
  s.isInstance v (.known "Exception")

/-- The record of a file from its text alone. -/
def outlined (d : Disk) (path : Path) : Except Failure ModuleRecord :=
  (Outline.ofFile d path).mapError .file

/-- Runs a file and takes its record from what is then there; `code` is its text. -/
def live (d : Disk) (path : Path) (code : String) : Live.Run ModuleRecord := do
  let m ← Live.load d path
  Live.describeModule path m (Outline.leadingText? code.toList)

/-- Where files must not be run, asking for one to be run raises an exception. -/
def refused (path : Path) : Live.Run ModuleRecord :=
  Live.Run.raiseWith "ImportError" [.text ("Could not load module from " ++ path.toString)]

/-- How running a file and describing it ends: with the parts of its record, with an ordinary
exception, so that the record is taken from its text, or with an exception that stops the program. It
does not matter in which step that exception comes up. -/
inductive Ending
  | described (docstring : Option String) (functions : List FunctionRecord)
      (classes : List ClassRecord)
  | failed
  | escaped (e : Live.Raised)

/-- A way to run files: how running one of them, given its text, ends in a session, and the session
after it. -/
abbrev Runner := Disk → Path → String → Live.Store → Ending × Live.Store

/-- Files are run as far as their language is followed; what goes beyond it counts as failed. With
`loads` false no file may be run. -/
def running (loads : Bool) : Runner := fun d path code s =>
  match (if loads then live d path code else refused path).run.run s with
  | (.ok r, s) => (.described r.docstring r.functions r.classes, s)
  | (.error (.raised e), s) => (if isOrdinary s e then .failed else .escaped (s.raised e), s)
  | (.error .beyond, s) => (.failed, s)

/-- The record of a file, and the session after it was run in the given way. -/
def inspectWith (run : Runner) (d : Disk) (path : Path) (s : Live.Store) :
    Except Failure ModuleRecord × Live.Store :=
  match d.read path with
  | .error e => (.error (.file e), s)
  | .ok code =>
    match run d path code s with
    | (.described docstring functions classes, s) =>
      (.ok ⟨Outline.originOf path.toString, path.stem, docstring, functions, classes⟩, s)
    | (.failed, s) => (outlined d path, s)
    | (.escaped e, s) => (.error (.escaped e), s)

/-- The record of a file, and the session after it was run. With `loads` false no file may be run. -/
def inspect (loads : Bool) : Disk → Path → Live.Store → Except Failure ModuleRecord × Live.Store :=
  inspectWith (running loads)

end Codebook.Inspection
