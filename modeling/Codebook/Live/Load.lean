import Codebook.Disk
import Codebook.Live.Execute
import Codebook.Source.Encoding
import Codebook.Source.Placement

/-!
# Loading files

`load` runs a source file as a module of a session. The module is known to the session from before
its first statement, and stays so if it fails.

Loading goes by modules of the language that it looks for under their names in the session. A file
that was loaded under such a name stands in its place (`askModule`).
-/

namespace Codebook.Live

open Source Text

/-- A loaded module: its name and its variables. -/
structure Module where
  name : String
  frame : Nat
  deriving DecidableEq, Repr

/-- The exception for a text that is no source file. -/
def sourceFault (e : Source.Error) : Run (List Stmt) :=
  match e with
  | .grammar => Run.raiseWith "SyntaxError" [.text "invalid syntax"]
  | .indentation => Run.raiseWith "IndentationError" [.text "unexpected indent"]
  | .tabs => Run.raiseWith "TabError" [.text "inconsistent use of tabs and spaces in indentation"]
  | .nullCharacter => Run.fail (.wrongValue ((e.message?).getD ""))
  | .tooDeep => Run.raiseWith "RecursionError" [.text ((e.message?).getD "")]
  | .noRoom => Run.raiseWith "MemoryError" []
  | .unencodable f => Run.raiseWith "UnicodeEncodeError" [.text f.message]

/-- The statements of a source file that can be run. -/
def compile (bytes : List UInt8) : Run (List Stmt) :=
  if bytes.contains 0 then sourceFault .nullCharacter
  else if isObscure bytes then Run.beyond
  else
    match sourceText? bytes with
    | none => Run.fail .wrongText
    | some cs =>
      match Source.parse (String.ofList cs) with
      | .error e => sourceFault e
      | .ok body =>
        if runDepthLimit ≤ deepestIn body then
          Run.raiseWith "RecursionError"
            [.text "maximum recursion depth exceeded during compilation"]
        else if !admissible body then Run.fail .wrongText
        else if keepsHints body && !bodyWritable false body then Run.fail .tooLong
        else return body

/-- The exception for a file that cannot be read. -/
def fileFault {α : Type} (e : FileError) : Run α :=
  match e with
  | .missing _ => Run.raiseWith "FileNotFoundError" [.text e.message]
  | .isDirectory _ => Run.raiseWith "IsADirectoryError" [.text e.message]
  | .notDirectory _ => Run.raiseWith "NotADirectoryError" [.text e.message]
  | .tooLong _ => Run.raiseWith "OSError" [.text e.message]
  | .nullByte => Run.raiseWith "ValueError" [.text e.message]
  | .nullCharacter _ => Run.raiseWith "ValueError" [.text e.message]
  | .unencodable _ => Run.raiseWith "UnicodeEncodeError" [.text e.message]
  | .undecodable _ => Run.raiseWith "UnicodeDecodeError" [.text e.message]

/-- The variables that a module starts with. -/
def moduleFrame (name file : String) : Frame where
  kind := .module
  vars := [("__name__", .text name), ("__doc__", .none), ("__package__", .text ""),
    ("__file__", .text file)]
  own := []
  declared := []
  outer := []
  globals := 0
  path := ""
  className := none
  keepsHints := false

/-- Runs the statements of a module. -/
def runModule (frame : Nat) (body : List Stmt) : Run Unit := do
  Run.setFrame frame fun f => { f with keepsHints := Source.keepsHints body }
  if bodyHints body then Run.setVar frame "__annotations__" (.dict [])
  match docOf body with
  | .none => pure ()
  | doc => Run.setVar frame "__doc__" doc
  let _ ← executeAll (machine callLimit) frame body

/-- The docstring of a module. A module that has lost its own has that of all modules. -/
def Store.moduleDoc (s : Store) (frame : Nat) : Value :=
  ((s.frame frame).vars.get? "__doc__").getD (s.classDoc (.known "module"))

/-- The docstring that a module without one gets: the text that its file starts with. -/
def suggestedDoc (d : Disk) (path : Path) : Run (Option String) :=
  match d.read path with
  | .error e => fileFault e
  | .ok text =>
    match Source.parse text with
    | .ok body => return docstring? body
    | .error _ => return none

/-- Asks the module of a name for a member. A file that was loaded under that name lacks the member,
or else nothing is known of what it gives for it. -/
def askModule (name member : String) : Run Unit := do
  let s ← get
  match s.module? name with
  | none => pure ()
  | some frame =>
    let vars := (s.frame frame).vars
    if (vars.get? member).isSome || (vars.get? "__getattr__").isSome then Run.beyond
    else Run.fail (.noAttribute ("module '" ++ name ++ "'") member)

/-- Runs a file whose module is known to the session, with the given variables. -/
def fill (d : Disk) (path : Path) (frame : Nat) : Run Module :=
  match d.bytes (d.resolve path) with
  | .error e => fileFault e
  | .ok bytes => do
    runModule frame (← compile bytes)
    match (← get).moduleDoc frame with
    | .none =>
      match ← suggestedDoc d path with
      | some t => Run.setVar frame "__doc__" (.text t)
      | none => pure ()
    | _ => pure ()
    return ⟨path.stem, frame⟩

/-- Runs the file as a module with its stem as the name. -/
def load (d : Disk) (path : Path) : Run Module := do
  askModule "importlib" "util"
  unless path.toString.endsWith ".py" do
    Run.raiseWith "ImportError" [.text ("Could not load module from " ++ path.toString)]
  askModule "sys" "modules"
  let name := path.stem
  let frame ← Run.newFrame (moduleFrame name (d.resolve path).toString)
  modify fun s => { s with modules := (name, frame) :: s.modules.filter (·.1 != name) }
  fill d path frame

end Codebook.Live
