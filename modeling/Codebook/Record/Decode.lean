import Codebook.Record.Basic

/-!
# Records from plain data

Records can be given as objects of named values. Every field that a record needs must be there and
have the right shape; fields that have a default may be left out. An object that does not fit is
refused as a whole.
-/

namespace Codebook

namespace Datum

/-- The field of an object. -/
def field? (d : Datum) (key : String) : Option Datum :=
  match d with
  | .object fields => (fields.find? (·.1 == key)).map (·.2)
  | _ => none

/-- A text that must be there. -/
def needText (d : Datum) (key : String) : Option String :=
  match d.field? key with
  | some (.text s) => some s
  | _ => none

/-- A text that may be left out or null. -/
def maybeText (d : Datum) (key : String) : Option (Option String) :=
  match d.field? key with
  | some (.text s) => some (some s)
  | some .null => some none
  | none => some none
  | _ => none

/-- A text that is `default` if it is left out. -/
def textOr (d : Datum) (key default : String) : Option String :=
  match d.field? key with
  | some (.text s) => some s
  | none => some default
  | _ => none

/-- Values that are none if they are left out. -/
def listOr (d : Datum) (key : String) : Option (List Datum) :=
  match d.field? key with
  | some (.list items) => some items
  | none => some []
  | _ => none

/-- A capability that must be there, unless a default is given. -/
def needCapability (d : Datum) (default : Option Capability) : Option Capability :=
  match d.field? "capability" with
  | some (.text s) => Capability.ofValue? s
  | some (.capability c) => some c
  | none => default
  | _ => none

end Datum

/-- The name of the extractor of source code. -/
def sourceExtractor : String := "python"

/-- The origin of a record of source code. -/
def Origin.ofDatum? (d : Datum) : Option Origin := do
  return ⟨← d.needText "file_path", ← d.textOr "extractor_name" sourceExtractor,
    ← d.needCapability (some .codeStructure)⟩

/-- An object as named values. -/
def infoOfDatum? : Datum → Option Info
  | .object fields => some fields
  | _ => none

/-- The parameters of a function record. -/
def parametersOfDatum? (d : Datum) : Option (List (String × Info)) :=
  match d.field? "parameters" with
  | some (.object fields) => fields.mapM fun f => (infoOfDatum? f.2).map fun i => (f.1, i)
  | none => some []
  | _ => none

/-- The function record that an object gives. -/
def FunctionRecord.ofDatum? (d : Datum) : Option FunctionRecord := do
  return {
    origin := ← Origin.ofDatum? d
    name := ← d.needText "name"
    docstring := ← d.maybeText "docstring"
    signature := ← d.needText "signature"
    parameters := ← parametersOfDatum? d
    returnType := ← d.maybeText "return_type"
    returnDescription := ← d.maybeText "return_description"
    modulePath := ← d.needText "module_path" }

/-- The class record that an object gives. -/
def ClassRecord.ofDatum? (d : Datum) : Option ClassRecord := do
  return {
    origin := ← Origin.ofDatum? d
    name := ← d.needText "name"
    docstring := ← d.maybeText "docstring"
    methods := ← (← d.listOr "methods").mapM FunctionRecord.ofDatum?
    modulePath := ← d.needText "module_path" }

/-- The module record that an object gives. -/
def ModuleRecord.ofDatum? (d : Datum) : Option ModuleRecord := do
  return {
    origin := ← Origin.ofDatum? d
    name := ← d.needText "name"
    docstring := ← d.maybeText "docstring"
    functions := ← (← d.listOr "functions").mapM FunctionRecord.ofDatum?
    classes := ← (← d.listOr "classes").mapM ClassRecord.ofDatum? }

/-- The origin that an object gives by itself; nothing may be left out. -/
def Origin.ofPlainDatum? (d : Datum) : Option Origin := do
  return ⟨← d.needText "file_path", ← d.needText "extractor_name", ← d.needCapability none⟩

/-- The item of the given kind that an object gives. -/
def Item.ofDatum? (kind : String) (d : Datum) : Option Item :=
  match kind with
  | "module" => (ModuleRecord.ofDatum? d).map .module
  | "class" => (ClassRecord.ofDatum? d).map .class
  | "function" => (FunctionRecord.ofDatum? d).map .function
  | _ => (Origin.ofPlainDatum? d).map .plain

end Codebook
