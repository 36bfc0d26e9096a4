import Codebook.Document.Json
import Codebook.Document.Markdown

/-!
# Documents

Documentation is written in one of two formats.
-/

namespace Codebook.Document

/-- The formats of a document. -/
inductive Format
  | markdown
  | json
  deriving DecidableEq, Repr

/-- The name of a format. -/
def Format.name : Format → String
  | .markdown => "markdown"
  | .json => "json"

/-- The format with a name. -/
def Format.ofName? : String → Option Format
  | "markdown" => some .markdown
  | "json" => some .json
  | _ => none

/-- The document of some modules in a format, with their texts read in the given way. -/
def render (rd : Text.Reading) (format : Format) (modules : List ModuleRecord) :
    Except Error String :=
  match format with
  | .json => json rd usualRoom modules
  | .markdown => .ok (markdown defaultSections modules)

end Codebook.Document
