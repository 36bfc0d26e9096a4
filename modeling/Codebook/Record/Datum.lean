import Codebook.Decimal.Shortest
import Codebook.Text.Quoted

/-!
# Values in records

What a record says about a parameter is a list of named values in order. A value is one of the
usual plain data, a capability, or something that has no written form.
-/

namespace Codebook

/-- What an extractor can find out about a file. -/
inductive Capability
  | codeStructure
  | dependencies
  | metrics
  | security
  | documentation
  | style
  deriving DecidableEq, Repr

namespace Capability

/-- The name by which a capability is written. -/
def value : Capability → String
  | .codeStructure => "code_structure"
  | .dependencies => "dependencies"
  | .metrics => "metrics"
  | .security => "security"
  | .documentation => "documentation"
  | .style => "style"

/-- The name of a capability as a member of its kind. -/
def label : Capability → String
  | .codeStructure => "CODE_STRUCTURE"
  | .dependencies => "DEPENDENCIES"
  | .metrics => "METRICS"
  | .security => "SECURITY"
  | .documentation => "DOCUMENTATION"
  | .style => "STYLE"

/-- All capabilities. -/
def all : List Capability :=
  [.codeStructure, .dependencies, .metrics, .security, .documentation, .style]

/-- The capability with the given written name. -/
def ofValue? (s : String) : Option Capability :=
  all.find? (·.value == s)

/-- The complaint about a name that no capability has. -/
def unknown (s : String) : String :=
  Text.quoted s ++ " is not a valid Capability"

end Capability

/-- A value in a record. -/
inductive Datum
  | null
  | bool (b : Bool)
  | int (n : Int)
  | float (x : Float)
  | text (s : String)
  | list (items : List Datum)
  | object (fields : List (String × Datum))
  | capability (c : Capability)
  | unwritable (type : String)
  deriving Repr, Inhabited

namespace Datum

/-- A value counts as present unless it is null, false, zero or empty. -/
def isPresent : Datum → Bool
  | .null => false
  | .bool b => b
  | .int n => n != 0
  | .float x => x != 0
  | .text s => !s.isEmpty
  | .list items => !items.isEmpty
  | .object fields => !fields.isEmpty
  | .capability _ => true
  | .unwritable _ => true

/-- A text as a value, or null. -/
def text? : Option String → Datum
  | some s => .text s
  | none => .null

mutual

/-- A value written out inside another one. -/
def literal : Datum → String
  | .null => "None"
  | .bool b => if b then "True" else "False"
  | .int n => toString n
  | .float x => Decimal.text x
  | .text s => Text.quoted s
  | .list items => "[" ++ ", ".intercalate (literals items) ++ "]"
  | .object fields => "\x7b" ++ ", ".intercalate (fieldLiterals fields) ++ "\x7d"
  | .capability c => "<Capability." ++ c.label ++ ": " ++ Text.quoted c.value ++ ">"
  | .unwritable type => "<" ++ type ++ " object>"

/-- Values written out one by one. -/
def literals : List Datum → List String
  | [] => []
  | d :: ds => literal d :: literals ds

/-- Named values written out one by one. -/
def fieldLiterals : List (String × Datum) → List String
  | [] => []
  | (k, d) :: fs => (Text.quoted k ++ ": " ++ literal d) :: fieldLiterals fs

end

/-- A value as it is shown by itself: a text is shown without quotes. -/
def shown : Datum → String
  | .text s => s
  | .capability c => "Capability." ++ c.label
  | d => literal d

end Datum

/-- Named values in order. -/
abbrev Info := List (String × Datum)

namespace Info

/-- The value with a name. -/
def get? (i : Info) (key : String) : Option Datum :=
  (i.find? (·.1 == key)).map (·.2)

end Info

/-- Named things with one more put among them: in the place of one of the same name, or at the
end. -/
def putNamed {α : Type} (name : String) (a : α) : List (String × α) → List (String × α)
  | [] => [(name, a)]
  | (n, b) :: rest => if n == name then (n, a) :: rest else (n, b) :: putNamed name a rest

/-- Named things in order of first mention, each with its last value. -/
def ofNamed {α : Type} (xs : List (String × α)) : List (String × α) :=
  xs.foldl (fun acc x => putNamed x.1 x.2 acc) []

end Codebook
