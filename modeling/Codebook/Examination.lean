import Codebook.Registry
import Codebook.Search

/-!
# Examining files

Every file goes through all extractors that take it. A failure of one of them is reported and the
others go on; what they find is collected in order. An exception that stops the program stops the
examination, and nothing is examined after it.
-/

namespace Codebook.Examination

/-- An examination under way: what was found, the session that files are run in, and the exception
that stopped it, if one did. -/
structure State where
  extraction : Extraction
  session : Live.Store
  escaped : Option Live.Raised

/-- The state before the first file. -/
def State.start (fileCount : Nat) (s : Live.Store) : State :=
  ⟨⟨fileCount, [], []⟩, s, none⟩

/-- The report of a failure. -/
def report (extractor : Extractor) (path : Path) (message : String) : String :=
  "Error using " ++ extractor.name ++ " on " ++ path.toString ++ ": " ++ message ++ "\n"

/-- The names of the extractors used, with one more unless it is among them. -/
def note (used : List String) (e : Extractor) : List String :=
  if used.contains e.name then used else used ++ [e.name]

/-- One extractor on one file. -/
def apply (d : Disk) (path : Path) (st : State) (e : Extractor) : State :=
  if st.escaped.isSome then st
  else
    let (outcome, s) := e.extract d path st.session
    match outcome with
    | .one item =>
      { st with extraction := { st.extraction with items := st.extraction.items ++ [item] },
                session := s }
    | .many items =>
      { st with extraction := { st.extraction with items := st.extraction.items ++ items },
                session := s }
    | .failed message =>
      { st with session := { s with printed := s.printed ++ report e path message } }
    | .escaped x => { st with session := s, escaped := some x }

/-- All extractors that take a file. -/
def examineFile (r : Registry) (d : Disk) (st : State) (path : Path) : State :=
  if st.escaped.isSome then st
  else
    let es := r.forFile path
    let used := es.foldl note st.extraction.extractors
    es.foldl (apply d path) { st with extraction := { st.extraction with extractors := used } }

/-- All files in order. -/
def examineFiles (r : Registry) (d : Disk) (files : List Path) (s : Live.Store) : State :=
  files.foldl (examineFile r d) (.start files.length s)

/-- The files that a search of a directory finds. -/
def examineDirectory (r : Registry) (d : Disk) (o : Search.Options) (directory : String)
    (s : Live.Store) : Except Search.Error State := do
  let files ← Search.find d o directory
  return examineFiles r d files s

end Codebook.Examination
