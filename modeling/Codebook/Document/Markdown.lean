import Codebook.Record.Basic
import Codebook.Text.Lower
import Codebook.Text.Part

/-!
# Markdown documents

A Markdown document is a sequence of sections: a title, a table of contents, and the modules with
all they hold. Modules, functions, classes and methods are sorted by name; those of one name keep
their order.
-/

namespace Codebook.Document

open Text

/-- A section of a document. -/
inductive Section
  | title
  | contents
  | modules
  deriving DecidableEq, Repr

/-- The section with the given name. -/
def Section.ofName? : String → Option Section
  | "title" => some .title
  | "toc" => some .contents
  | "modules" => some .modules
  | _ => none

/-- The sections of a document unless told otherwise. -/
def defaultSections : List Section := [.title, .contents, .modules]

/-- Things sorted by name, those of one name in their order. -/
def sortedBy {α : Type} (name : α → String) (xs : List α) : List α :=
  xs.mergeSort fun a b => decide (name a ≤ name b)

/-- The anchor of a module. -/
def anchor (name : String) : String :=
  String.ofList (replaceChar '.' [] (lower name).toList)

/-- A text and an empty line, if there is a text. -/
def paragraph : Option String → String
  | some s => if s.isEmpty then "" else s ++ "\n\n"
  | none => ""

/-- A value of a parameter, if it is present. -/
def presentText (i : Info) (key : String) : Option String :=
  match i.get? key with
  | some d => if d.isPresent then some d.shown else none
  | none => none

/-- The line of a parameter. A default that reads `None` is not shown. -/
def parameterLine (p : String × Info) : String :=
  let type := match presentText p.2 "annotation" with
    | some t => " (" ++ t ++ ")"
    | none => ""
  let default := match p.2.get? "default" with
    | some (.text "None") => ""
    | some d => if d.isPresent then ", default: \x60" ++ d.shown ++ "\x60" else ""
    | none => ""
  "- \x60" ++ p.1 ++ "\x60" ++ type ++ default ++ ": " ++
    (presentText p.2 "description").getD "" ++ "\n"

/-- The parameters of a function, those of the given names left out. The heading stays even when all
are left out. -/
def parameterList (omitted : List String) (params : List (String × Info)) : String :=
  if params.isEmpty then ""
  else
    "**Parameters:**\n\n" ++
      String.join ((params.filter (!omitted.contains ·.1)).map parameterLine) ++ "\n"

/-- A text, if it is there and not empty. -/
def nonEmpty : Option String → Option String
  | some s => if s.isEmpty then none else some s
  | none => none

/-- What a function gives back. -/
def returnsPart (f : FunctionRecord) : String :=
  match nonEmpty f.returnType, nonEmpty f.returnDescription with
  | none, none => ""
  | type, description =>
    let shown := match type with
      | some t => "(" ++ t ++ ")"
      | none => ""
    "**Returns:**\n\n" ++ shown ++ " " ++ description.getD "" ++ "\n\n"

/-- A function under a heading of the given kind. -/
def functionPart (heading : String) (omitted : List String) (f : FunctionRecord) : String :=
  heading ++ " \x60" ++ f.name ++ f.signature ++ "\x60\n\n" ++ paragraph f.docstring ++
    parameterList omitted f.parameters ++ returnsPart f

/-- Parts under a heading; nothing if there are none. -/
def headed (heading : String) (parts : List String) : String :=
  if parts.isEmpty then "" else heading ++ "\n\n" ++ String.join parts

/-- A class with its methods. The first parameter of methods is not listed. -/
def classPart (c : ClassRecord) : String :=
  "#### \x60" ++ c.name ++ "\x60\n\n" ++ paragraph c.docstring ++
    headed "**Methods:**"
      ((sortedBy (·.name) c.methods).map (functionPart "#####" ["self"]))

/-- A module with all it holds. -/
def modulePart (m : ModuleRecord) : String :=
  "## Module: " ++ m.name ++ " <a id='" ++ anchor m.name ++ "'></a>\n\n" ++
    "File: \x60" ++ m.origin.file ++ "\x60\n\n" ++ paragraph m.docstring ++
    headed "### Functions" ((sortedBy (·.name) m.functions).map (functionPart "####" [])) ++
    headed "### Classes" ((sortedBy (·.name) m.classes).map classPart) ++ "---\n\n"

/-- The line of a module in the table of contents. -/
def contentsLine (m : ModuleRecord) : String :=
  "- [Module: " ++ m.name ++ "](#" ++ anchor m.name ++ ")\n"

/-- The text of a section. -/
def Section.render (modules : List ModuleRecord) : Section → String
  | .title => "# Codebase Documentation\n\n"
  | .contents =>
    "## Table of Contents\n\n" ++
      String.join ((sortedBy (·.name) modules).map contentsLine) ++ "\n"
  | .modules => String.join ((sortedBy (·.name) modules).map modulePart)

/-- The Markdown document with the given sections. -/
def markdown (sections : List Section) (modules : List ModuleRecord) : String :=
  String.join (sections.map (Section.render modules))

end Codebook.Document
