import Codebook.Document.Basic
import Codebook.Examination

/-!
# The tool

The examination as a tool that another program calls by name with arguments, and the description by
which that program learns of it.
-/

namespace Codebook.Tool

/-- The name of the tool. -/
def name : String := "examine_codebase"

/-! ## Running it -/

/-- What the tool is asked for. -/
structure Request where
  directory : String
  excluded : Option (List String)
  format : String
  includeDotfiles : Bool
  includeTests : Bool
  useIgnoreFile : Bool
  deriving DecidableEq, Repr

/-- What is asked for unless told otherwise. -/
def Request.default : Request := ⟨".", none, "markdown", false, false, true⟩

/-- What the tool answers. -/
inductive Answer
  | success (documentation : String) (modulesFound : Nat) (extractorsUsed : List String)
  | error (message : String)
  deriving Repr

/-- The answer, or the exception that stopped the program, and the session after it. -/
structure Outcome where
  answer : Except Live.Raised Answer
  session : Live.Store

/-- The search that a request asks for. -/
def Request.options (r : Request) : Search.Options where
  excluded := r.excluded.getD Search.defaultExcluded
  skipDotfiles := !r.includeDotfiles
  includeTests := r.includeTests
  useIgnoreFile := r.useIgnoreFile

/-- The directory that a request means, from the root. -/
def Request.fullDirectory (r : Request) (d : Disk) : Except FileError String :=
  if r.directory.startsWith "/" then .ok r.directory
  else (d.locate (Path.ofString r.directory)).map Path.toString

/-- Runs the tool. Every format but JSON is Markdown. -/
def run (registry : Registry) (d : Disk) (r : Request) (s : Live.Store) : Outcome :=
  let examined := do
    let directory ← (r.fullDirectory d).mapError Search.Error.file
    Examination.examineDirectory registry d r.options directory s
  match examined with
  | .error e => ⟨.ok (.error e.message), s⟩
  | .ok st =>
    match st.escaped with
    | some e => ⟨.error e, st.session⟩
    | none =>
      let modules := st.extraction.modules
      let format := (Document.Format.ofName? r.format).getD .markdown
      match Document.render .halves format modules with
      | .error e => ⟨.ok (.error e.message), st.session⟩
      | .ok text =>
        ⟨.ok (.success text modules.length st.extraction.extractors), st.session⟩

/-! ## Describing it -/

/-- A parameter of the tool. -/
structure Parameter where
  name : String
  type : String
  description : String
  more : List (String × Datum)

/-- The parameters of the tool. -/
def parameters : List Parameter := [
  ⟨"directory", "string", "The directory to examine. Default is the current directory.", []⟩,
  ⟨"exclude_dirs", "array",
    "Directories to exclude from examination (uses .gitignore patterns first if present, then " ++
      "falls back to these directories). Default is ['.venv', '.git', '__pycache__', 'tests', " ++
      "'build', 'dist'].",
    [("items", .object [("type", .text "string")])]⟩,
  ⟨"format_type", "string",
    "The format of the generated documentation. Default is 'markdown'.",
    [("enum", .list [.text "markdown", .text "json"])]⟩,
  ⟨"include_dotfiles", "boolean",
    "Whether to include dotfiles in the examination. Default is false.", []⟩,
  ⟨"include_test_files", "boolean",
    "Whether to include test files in the examination. Default is false.", []⟩,
  ⟨"use_gitignore", "boolean",
    "Whether to use .gitignore patterns for exclusion. Default is true.", []⟩]

/-- A parameter as others read it. -/
def Parameter.datum (p : Parameter) : String × Datum :=
  (p.name, .object ([("type", .text p.type)] ++ p.more ++ [("description", .text p.description)]))

/-- The tool as others read it. -/
def descriptor : Datum :=
  .object [("type", .text "function"),
    ("function", .object [("name", .text name),
      ("description", .text
        ("Examine a Python codebase and generate documentation. This tool analyzes Python files " ++
          "to extract information about modules, classes, functions, and their documentation.")),
      ("parameters", .object [("type", .text "object"),
        ("properties", .object (parameters.map Parameter.datum)), ("required", .list [])])])]

end Codebook.Tool
