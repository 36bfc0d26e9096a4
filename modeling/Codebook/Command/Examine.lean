import Codebook.Command.Basic
import Codebook.Document.Basic
import Codebook.Text.Quoted

/-!
# The command that examines

Examines a directory and shows or writes its documentation. What goes wrong on the way is shown as
an error, and the exit code is then one.
-/

namespace Codebook.Command.Examine

open Document Text

/-- What the command is asked for. -/
structure Request where
  directory : String
  format : Format
  outputFile : Option String
  excluded : Option (List String)
  includeDotfiles : Bool
  includeTests : Bool
  sections : Option (List String)
  useIgnoreFile : Bool
  deriving DecidableEq, Repr

/-- What is asked for unless told otherwise. -/
def Request.default : Request := ⟨".", .markdown, none, none, false, false, none, true⟩

/-- The directories that are left out if none are named. -/
def usualExcluded : List String := [".venv", ".git"]

/-- The search that a request asks for. -/
def Request.options (r : Request) : Search.Options where
  excluded := match r.excluded with
    | some (x :: xs) => x :: xs
    | _ => usualExcluded
  skipDotfiles := !r.includeDotfiles
  includeTests := r.includeTests
  useIgnoreFile := r.useIgnoreFile

/-- The sections that names stand for, or the first name that stands for none. -/
def sectionsOf (names : List String) : Except String (List Section) :=
  names.mapM fun n =>
    let n := lower n
    match Section.ofName? n with
    | some s => .ok s
    | none => .error n

/-- The document that a request asks for. Only Markdown has sections to choose. An error is told by
the lines that are shown for it. -/
def Request.document (r : Request) (modules : List ModuleRecord) : Except (List Shown) String :=
  match r.format, r.sections with
  | .markdown, some (name :: names) =>
    match sectionsOf (name :: names) with
    | .ok sections => .ok (markdown sections modules)
    | .error n =>
      .error [errorLine ("Unknown section '" ++ n ++ "'"), errorLine (quoted n)]
  | format, _ => (render .halves format modules).mapError fun e => [errorLine e.message]

/-- What is shown and printed of a document that is not written to a file. -/
def shown (format : Format) (document : String) : List Shown × String :=
  match format with
  | .json => ([.plain "JSON_OUTPUT_START", .plain document, .plain "JSON_OUTPUT_END"], "")
  | .markdown => ([.document document], document ++ "\n")

/-- Shows a document, or writes it to the file that was asked for. -/
def deliver (r : Request) (document : String) (before : Report) : Report :=
  match r.outputFile with
  | none => show_
  | some "" => show_
  | some file =>
    match before.disk.write (Path.ofString file) document with
    | (none, disk) =>
      let message := "Documentation written to " ++ file
      { before with
        console := before.console ++ [.styled "bold green" message]
        output := before.output ++ message ++ "\n"
        disk }
    | (some e, disk) =>
      { before with code := 1, console := before.console ++ [errorLine e.message], disk }
where
  /-- The report with the document shown. -/
  show_ : Report :=
    let (lines, text) := shown r.format document
    { before with console := before.console ++ lines, output := before.output ++ text }

/-- Runs the command. -/
def run (registry : Registry) (d : Disk) (r : Request) (s : Live.Store) : Report :=
  let start : List Shown := [
    .styled "bold blue" ("Examining codebase in directory: " ++ r.directory),
    .styled "bold" "Finding and analyzing Python files..."]
  match Examination.examineDirectory registry d r.options r.directory s with
  | .error e => ⟨1, start ++ [errorLine e.message], s.printed, d, none⟩
  | .ok st =>
    let printed := st.session.printed
    match st.escaped with
    | some e => ⟨1, start, printed, d, some e⟩
    | none =>
      let modules := st.extraction.modules
      let found : Shown := .styled "green" ("Found " ++ toString modules.length ++
        " modules using " ++ ", ".intercalate st.extraction.extractors ++ " extractors")
      let writing : Shown := .styled "bold" ("Generating " ++ r.format.name ++ " documentation...")
      let console := start ++ [found, writing]
      match r.document modules with
      | .error lines => ⟨1, console ++ lines, printed, d, none⟩
      | .ok document => deliver r document ⟨0, console, printed, d, none⟩

end Codebook.Command.Examine
