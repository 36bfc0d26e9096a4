import Codebook.Examination

/-!
# Reports of commands

What a command leaves behind: an exit code, what it showed on the console, what it printed, and the
disk with the files it wrote.
-/

namespace Codebook.Command

/-- What is shown on the console: a line in a style, a plain line, or a document. -/
inductive Shown
  | styled (style text : String)
  | plain (text : String)
  | document (markdown : String)
  deriving DecidableEq, Repr

/-- What is shown, with its style as markup. -/
def Shown.markup : Shown → String
  | .styled style text => "[" ++ style ++ "]" ++ text ++ "[/" ++ style ++ "]"
  | .plain text => text
  | .document text => text

/-- What is shown, without its style. -/
def Shown.text : Shown → String
  | .styled _ text => text
  | .plain text => text
  | .document text => text

/-- What a command leaves behind. An exception that stopped the program is passed on. -/
structure Report where
  code : Int
  console : List Shown
  output : String
  disk : Disk
  escaped : Option Live.Raised

/-- The line that tells of an error. -/
def errorLine (message : String) : Shown :=
  .styled "bold red" ("Error: " ++ message)

end Codebook.Command
