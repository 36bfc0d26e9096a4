import Codebook.Extractor

/-!
# The registry of extractors

Extractors by name, in the order in which the names were first registered. A second extractor of one
name takes the place of the first.
-/

namespace Codebook

/-- Extractors, no two of one name. -/
structure Registry where
  extractors : List Extractor

namespace Registry

/-- No extractor. -/
def empty : Registry := ⟨[]⟩

/-- The names of the extractors, in order. -/
def names (r : Registry) : List String :=
  r.extractors.map (·.name)

/-- A list of extractors with one more, in the place of the one of its name if there is one. -/
def put (e : Extractor) : List Extractor → List Extractor
  | [] => [e]
  | x :: xs => if x.name == e.name then e :: xs else x :: put e xs

/-- The registry with one more extractor. -/
def register (r : Registry) (e : Extractor) : Registry :=
  ⟨put e r.extractors⟩

/-- The registry with the extractors that come with the program. -/
def registerDefaults (r : Registry) (loads : Bool) : Registry :=
  r.register (Extractor.python loads)

/-- The registry that the program starts with; `setting` is what the environment says about the
extractors that come with the program. Only `1`, or nothing, lets them in. -/
def initial (setting : Option String) (loads : Bool) : Registry :=
  if setting.getD "1" == "1" then empty.registerDefaults loads else empty

/-! ## Finding extractors -/

/-- The extractor of the given name. -/
def get? (r : Registry) (name : String) : Option Extractor :=
  r.extractors.find? (·.name == name)

/-- The extractors that take a file, in order. -/
def forFile (r : Registry) (path : Path) : List Extractor :=
  r.extractors.filter (·.accepts path)

/-- The extractors of a capability, in order. -/
def withCapability (r : Registry) (c : Capability) : List Extractor :=
  r.extractors.filter (·.capabilities.contains c)

end Registry

end Codebook
