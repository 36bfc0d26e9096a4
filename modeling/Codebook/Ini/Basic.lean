import Codebook.Disk

/-!
# Settings files

A settings file has sections of options. Options of the section `DEFAULT` belong to every section
that does not set them itself. Sections and options stay in the order in which they are first
written.
-/

namespace Codebook

open Text

/-- The sections of a settings file with their options, and the options that every section has. -/
structure Ini where
  defaults : List (String × String)
  sections : List (String × List (String × String))
  deriving DecidableEq, Repr

/-- What can be wrong with a settings file or with one of its values. -/
inductive Ini.Error
  | noSection (source : String) (line : Nat) (text : String)
  | repeatedSection (name source : String) (line : Nat)
  | repeatedOption (sectionName option source : String) (line : Nat)
  | malformed (source : String) (lines : List (Nat × String))
  | undecodable (failure : DecodeFailure)
  | file (e : FileError)
  | lonePercent (rest : String)
  | badReference (rest : String)
  | tooDeep (sectionName option raw : String)
  | unknownReference (sectionName option reference raw : String)
  deriving DecidableEq, Repr

/-- How deep references inside referred values may go. -/
def Ini.maxDepth : Nat := 10

/-- How the file of an error is named. -/
def Ini.sourceText (source : String) : String :=
  "PosixPath(" ++ quoted source ++ ")"

/-- A line number of at least two places. -/
def Ini.lineText (line : Nat) : String :=
  (if line < 10 then "[line  " else "[line ") ++ toString line ++ "]"

/-- The wording of an error. -/
def Ini.Error.message : Ini.Error → String
  | .noSection source line text =>
    "File contains no section headers.\nfile: " ++ sourceText source ++ ", line: " ++
      toString line ++ "\n" ++ quoted text
  | .repeatedSection name source line =>
    "While reading from " ++ sourceText source ++ " " ++ lineText line ++ ": section " ++
      quoted name ++ " already exists"
  | .repeatedOption name option source line =>
    "While reading from " ++ sourceText source ++ " " ++ lineText line ++ ": option " ++
      quoted option ++ " in section " ++ quoted name ++ " already exists"
  | .malformed source lines =>
    "Source contains parsing errors: " ++ sourceText source ++
      String.join (lines.map fun l => "\n\t" ++ lineText l.1 ++ ": " ++ quoted l.2)
  | .undecodable f => f.message
  | .file e => e.message
  | .lonePercent rest => "'%' must be followed by '%' or '(', found: " ++ quoted rest
  | .badReference rest => "bad interpolation variable reference " ++ quoted rest
  | .tooDeep name option raw =>
    "Recursion limit exceeded in value substitution: option " ++ quoted option ++
      " in section " ++ quoted name ++
      " contains an interpolation key which cannot be substituted in " ++ toString maxDepth ++
      " steps. Raw value: " ++ quoted raw
  | .unknownReference name option reference raw =>
    "Bad value substitution: option " ++ quoted option ++ " in section " ++ quoted name ++
      " contains an interpolation key " ++ quoted reference ++
      " which is not a valid option name. Raw value: " ++ quoted raw

namespace Ini

/-- The settings of an empty file. -/
def empty : Ini := ⟨[], []⟩

/-- The options that a section sets itself, if there is such a section. -/
def section? (ini : Ini) (name : String) : Option (List (String × String)) :=
  (ini.sections.find? (·.1 == name)).map (·.2)

/-- The names of all options of a section: its own, then the others that every section has. -/
def optionNames (ini : Ini) (name : String) : List String :=
  let own := ((ini.section? name).getD []).map (·.1)
  own ++ (ini.defaults.map (·.1)).filter (!own.contains ·)

/-- The value of an option as written. -/
def raw? (ini : Ini) (name option : String) : Option String :=
  (((ini.section? name).getD [] ++ ini.defaults).find? (·.1 == option)).map (·.2)

end Ini

end Codebook
