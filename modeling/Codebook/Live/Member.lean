import Codebook.Live.Describe
import Codebook.Text.Lines

/-!
# Looking at members

A dotted name leads from a loaded module to one of its members. What is there is described as a
class or as a function.
-/

namespace Codebook.Live

/-- The member that a dotted name leads to. -/
def follow (v : Value) (path : String) : Run Value :=
  (Text.dottedParts path).foldlM (fun v name => getAttribute (machine callLimit) v name) v

/-- What is found at a name: its signature, and its record as a class or as a function. -/
structure Member where
  signature : String
  record : Except Raised Item
  isClass : Bool

/-- What a run gives, or the exception that it raises. -/
def attempt {α : Type} (r : Run α) : Run (Except Raised α) :=
  tryCatch (do return .ok (← r)) fun
    | .raised e => do return .error ((← get).raised e)
    | .beyond => Run.beyond

/-- Describes a value, unless writing its signature fails. -/
def describe (path : String) (v : Value) : Run Member := do
  let signature ← signatureText v
  match v with
  | .cls c => return ⟨signature, (← attempt (describeClass path c)).map .class, true⟩
  | .form "Any" none =>
    return ⟨signature, (← attempt (describeClass path (.known "Any"))).map .class, true⟩
  | v => return ⟨signature, (← attempt (describeFunction path v)).map .function, false⟩

end Codebook.Live
